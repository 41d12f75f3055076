import ThresholdDaemon.Proofs.Session.Transcript

/-!
# Steps and their transcripts

Each step of a session that has a transcript gives a session that has one, which tells the step too.
The cases are the stages of a session; the ones that do something are receiving, handling and
sending.
-/
namespace ThresholdDaemon

/-- What some steps and then others send. -/
@[simp] theorem Effect.sent_append (first second : Effect) :
    (first ++ second).sent = first.sent ++ second.sent := rfl

/-- What some steps and then others count. -/
@[simp] theorem Effect.counted_append (first second : Effect) :
    (first ++ second).counted = first.counted ++ second.counted := rfl

/-- Nothing behind some steps leaves what they do. -/
theorem Effect.append_empty (effect : Effect) : effect ++ {} = effect := by
  show Effect.mk (effect.sent ++ []) (effect.counted ++ []) (effect.log ++ []) = effect
  simp only [List.append_nil]

/-- Effects in order may be taken together in any way. -/
theorem Effect.append_assoc (first second third : Effect) :
    first ++ second ++ third = first ++ (second ++ third) := by
  show Effect.mk (first.sent ++ second.sent ++ third.sent)
      (first.counted ++ second.counted ++ third.counted) (first.log ++ second.log ++ third.log) =
    Effect.mk (first.sent ++ (second.sent ++ third.sent))
      (first.counted ++ (second.counted ++ third.counted)) (first.log ++ (second.log ++ third.log))
  simp only [List.append_assoc]

/-- The outlets behind those that have been used. -/
theorem Connection.outlet_drop (connection : Connection) (outgoing : List Outlet)
    (used index : Nat) :
    ({ connection with outgoing := outgoing.drop used } : Connection).outlet index =
      ({ connection with outgoing } : Connection).outlet (used + index) := by
  simp [outlet, List.getD_eq_getElem?_getD]

namespace Session

variable {σ : Type}

/-- One more frame that is handled comes behind those that were. -/
theorem mapM_respond_snoc (dispatcher : Dispatcher σ) (frames : List Bytes) (frame : Bytes)
    {start middle finish : σ} {responses : List (Option Frame)} {response : Option Frame}
    (before : (frames.mapM (respond dispatcher)).run start = (responses, middle))
    (last : (respond dispatcher frame).run middle = (response, finish)) :
    ((frames ++ [frame]).mapM (respond dispatcher)).run start =
      (responses ++ [response], finish) := by
  rw [List.mapM_append, List.mapM_cons, List.mapM_nil]
  show (let (values, state) := (frames.mapM (respond dispatcher)).run start
    let (value, state) := (respond dispatcher frame).run state
    (values ++ [value], state)) = _
  rw [before]
  dsimp only
  rw [last]

/-- Before the buffer is allocated there is no frame. -/
theorem Phase.Fits.between_of_isEarly {phase : Phase} {stage : Stage} (fits : phase.Fits stage)
    (early : stage.isEarly) : phase = .between := by
  cases stage <;> simp only [Stage.isEarly, Bool.false_eq_true] at early <;>
    cases phase <;> first | rfl | exact fits.elim

namespace Transcript.Records

variable {transcript : Transcript} {dispatcher : Dispatcher σ} {origin : Connection} {start : σ}
  {stops : Prop} {session : Session} {effect : Effect} {state : σ}

/-- A session that has done nothing has the empty transcript. -/
theorem accept (dispatcher : Dispatcher σ) (origin : Connection) (start : σ) (stops : Prop) :
    Transcript.Records {} dispatcher origin start stops
      (Session.accept dispatcher.frameLimit origin) {} start where
  fits := trivial
  fresh _ := ⟨rfl, rfl⟩
  read := rfl
  goesOn := by simp
  frames := rfl
  handled := rfl
  outlets _ := rfl
  delivered := by simp [Transcript.responses]
  ending := by simp
  sent := rfl
  counted := rfl

/-- Counting what is owed changes nothing of a transcript. -/
theorem count (records : transcript.Records dispatcher origin start stops session effect state)
    {counter : Counter} {last : Bool} (stage : session.stage = .counting counter last) :
    transcript.Records dispatcher origin start stops
      (session.goTo (if last then .ended else .polling)) (effect ++ { counted := [counter] })
      state := by
  obtain ⟨fits, fresh, read, goesOn, frames, handled, outlets, delivered, ending, sent, counted⟩ :=
    records
  rw [stage] at fits fresh counted
  refine ⟨?_, ?_, read, goesOn, frames, handled, outlets, delivered, ending, ?_, ?_⟩
  · cases last <;> cases phase : transcript.phase <;> simp_all [goTo, Phase.Fits]
  · cases last <;> simp [goTo, Stage.isEarly]
  · simpa using sent
  · cases last <;> simpa [goTo, Stage.owes] using counted

/-- A session begins with counting itself. -/
theorem begin (records : transcript.Records dispatcher origin start stops session effect state)
    (stage : session.stage = .accepted) :
    transcript.Records dispatcher origin start stops (session.goTo .limiting)
      (effect ++ { counted := [.session] }) state := by
  obtain ⟨fits, fresh, read, goesOn, frames, handled, outlets, delivered, ending, sent, counted⟩ :=
    records
  rw [stage] at fits fresh counted
  refine ⟨?_, fun _ => fresh rfl, read, goesOn, frames, handled, outlets, delivered, ending,
    (List.append_nil _).trans sent, by simpa [goTo, Stage.owes] using counted⟩
  cases phase : transcript.phase <;> simp_all [goTo, Phase.Fits]

/-- Limiting the calls in time is the end of a session if it fails, and nothing otherwise. -/
theorem limit (records : transcript.Records dispatcher origin start stops session effect state)
    (stage : session.stage = .limiting) :
    ∃ transcript : Transcript, transcript.Records dispatcher origin start stops
      session.limit.1 (effect ++ session.limit.2) state := by
  obtain ⟨heard, finished, phase⟩ := transcript
  obtain ⟨fits, fresh, read, goesOn, frames, handled, outlets, delivered, ending, sent, counted⟩ :=
    records
  rw [stage] at fits fresh counted
  obtain ⟨rfl, rfl⟩ := fresh rfl
  cases phase with
  | received frame => exact fits.elim
  | answered frame response => exact fits.elim
  | concluded ending => exact fits.elim
  | between =>
    have same : session.connection.unlimited = origin.unlimited := by
      have kept := origin.receptions_connection dispatcher.frameLimit 0
      exact congrArg (·.2.2.unlimited) read.symm
    unfold Session.limit
    cases failed : session.connection.unlimited with
    | none =>
      exact ⟨{}, trivial, fun _ => ⟨rfl, rfl⟩, read, goesOn, frames, handled, outlets, delivered,
        ending, by simpa using sent, by simpa [goTo, Stage.owes] using counted⟩
    | some error =>
      refine ⟨{ phase := .concluded (.unlimited error) }, trivial, ?_, read, goesOn, frames,
        handled, ?_, delivered, ?_, (List.append_nil _).trans sent, ?_⟩
      · simp [goTo, Stage.isEarly]
      · simp [Phase.isOver]
      · rintro _ ⟨⟩
        exact same.symm.trans failed
      · have before : effect.counted = [.session] := (List.append_nil _).symm.trans counted
        simp [goTo, Stage.owes, Transcript.counted, Phase.counted, Ending.counted, before]

/-- Before the buffer is allocated nothing has been stored in it. -/
theorem buffer_of_isEarly
    (records : transcript.Records dispatcher origin start stops session effect state)
    (early : session.stage.isEarly) : session.buffer = { limit := dispatcher.frameLimit } := by
  have between := records.fits.between_of_isEarly early
  obtain ⟨heard, finished, phase⟩ := transcript
  obtain ⟨rfl, rfl⟩ := records.fresh early
  obtain rfl : phase = .between := between
  exact congrArg (·.2.1) records.read.symm

/-- Allocating the buffer changes nothing of a transcript. -/
theorem openBuffer
    (records : transcript.Records dispatcher origin start stops session effect state)
    (stage : session.stage = .opening) :
    transcript.Records dispatcher origin start stops
      { session with buffer := { limit := dispatcher.frameLimit }, stage := .polling } effect
      state := by
  have buffer := records.buffer_of_isEarly (by rw [stage]; rfl)
  obtain ⟨fits, fresh, read, goesOn, frames, handled, outlets, delivered, ending, sent, counted⟩ :=
    records
  rw [stage] at fits fresh counted
  rw [buffer] at read
  refine ⟨?_, by simp [Stage.isEarly], read, goesOn, frames, handled, outlets, delivered, ending,
    sent, by simpa [Stage.owes] using counted⟩
  cases phase : transcript.phase <;> simp_all [Phase.Fits]

/-- A shutdown that shows ends a session, and otherwise it goes on to receive a frame. -/
theorem poll (records : transcript.Records dispatcher origin start stops session effect state)
    (stage : session.stage = .polling) :
    transcript.Records dispatcher origin start stops (session.goTo .reading) effect state ∧
      ∀ log, stops → ∃ transcript : Transcript, transcript.Records dispatcher origin start stops
        (session.goTo .ended) (effect ++ { log }) state := by
  obtain ⟨heard, finished, phase⟩ := transcript
  obtain ⟨fits, fresh, read, goesOn, frames, handled, outlets, delivered, ending, sent, counted⟩ :=
    records
  rw [stage] at fits fresh counted
  cases phase with
  | received frame => exact fits.elim
  | answered frame response => exact fits.elim
  | concluded ending => exact fits.elim
  | between =>
    constructor
    · exact ⟨trivial, by simp [goTo, Stage.isEarly], read, goesOn, frames, handled, outlets,
        delivered, ending, sent, counted⟩
    · intro log stopped
      refine ⟨⟨heard, finished, .concluded .shutdown⟩, trivial, ?_, read, goesOn, frames, handled,
        ?_, delivered, ?_, (List.append_nil _).trans sent, ?_⟩
      · simp [goTo, Stage.isEarly]
      · simp [Phase.isOver]
      · rintro _ ⟨⟩
        exact stopped
      · rw [Effect.counted_append, List.append_nil]
        exact counted

/-- What a call that receives a frame gives is added to what was heard. -/
theorem receptions_snoc {heard : List Reception}
    (read : origin.receptions dispatcher.frameLimit heard.length =
      (heard, session.buffer, { session.connection with outgoing := origin.outgoing })) :
    origin.receptions dispatcher.frameLimit (heard.length + 1) =
      (heard ++ [(session.connection.receive session.buffer).1],
        (session.connection.receive session.buffer).2.1,
        { (session.connection.receive session.buffer).2.2 with outgoing := origin.outgoing }) := by
  rw [Connection.receptions, read]
  rfl

/-- Receiving a frame adds to a transcript what the call gave. -/
theorem receive (records : transcript.Records dispatcher origin start stops session effect state)
    (stage : session.stage = .reading) :
    ∃ transcript : Transcript, transcript.Records dispatcher origin start stops
      session.read.1 (effect ++ session.read.2) state := by
  obtain ⟨heard, finished, phase⟩ := transcript
  obtain ⟨fits, fresh, read, goesOn, frames, handled, outlets, delivered, ending, sent, counted⟩ :=
    records
  rw [stage] at fits fresh counted
  cases phase with
  | received frame => exact fits.elim
  | answered frame response => exact fits.elim
  | concluded ending => exact fits.elim
  | between =>
    simp only [Transcript.receptions, Phase.reception, List.append_nil] at read
    have longer := receptions_snoc read
    have kept : (session.connection.receive session.buffer).2.2.outgoing =
      session.connection.outgoing := rfl
    unfold Session.read
    generalize session.connection.receive session.buffer = found at longer kept
    obtain ⟨result, buffer, connection⟩ := found
    cases result with
    | ok received =>
      cases received with
      | some bytes =>
        refine ⟨⟨heard ++ [.ok (some bytes)], finished, .received bytes⟩, rfl, ?_, ?_, ?_, ?_,
          handled, ?_, delivered, by simp, (List.append_nil _).trans sent, ?_⟩
        · simp [goTo, Stage.isEarly]
        · simpa [Transcript.receptions, Phase.reception, goTo] using longer
        · simpa [or_imp, forall_and, Reception.goesOn] using goesOn
        · simp [frames, Phase.frame, Phase.exchange, Reception.frame?]
        · exact fun _ => kept.trans (outlets rfl)
        · rw [Effect.counted_append, List.append_nil]
          exact counted
      | none =>
        refine ⟨⟨heard, finished, .concluded .closed⟩, trivial, ?_, ?_, goesOn, ?_, handled, ?_,
          delivered, ?_, (List.append_nil _).trans sent, ?_⟩
        · simp [goTo, Stage.isEarly]
        · simpa [Transcript.receptions, Phase.reception, Ending.reception, goTo] using longer
        · exact frames
        · simp [Phase.isOver]
        · rintro _ ⟨⟩
          trivial
        · rw [Effect.counted_append, List.append_nil]
          exact counted
    | error error =>
      by_cases timeout : error.isTimeout
      · simp only [if_pos timeout]
        refine ⟨⟨heard ++ [.error error], finished, .between⟩, trivial, ?_, ?_, ?_, ?_, handled,
          ?_, delivered, by simp, (List.append_nil _).trans sent, ?_⟩
        · simp [goTo, Stage.isEarly]
        · simpa [Transcript.receptions, Phase.reception, goTo] using longer
        · simpa [or_imp, forall_and, Reception.goesOn, timeout] using goesOn
        · simpa [List.filterMap_cons, Reception.frame?] using frames
        · exact fun _ => kept.trans (outlets rfl)
        · rw [Effect.counted_append, List.append_nil]
          exact counted
      · simp only [if_neg timeout]
        refine ⟨⟨heard, finished, .concluded (.lost error)⟩, trivial, ?_, ?_, goesOn, ?_, handled,
          ?_, delivered, ?_, (List.append_nil _).trans sent, ?_⟩
        · simp [goTo, Stage.isEarly]
        · simpa [Transcript.receptions, Phase.reception, Ending.reception, goTo] using longer
        · exact frames
        · simp [Phase.isOver]
        · rintro _ ⟨⟩
          exact Bool.eq_false_iff.mpr timeout
        · have before : effect.counted = .session :: finished.map Exchange.counter := by
            simpa [Stage.owes, Transcript.counted, Phase.counted] using counted
          simp [goTo, Stage.owes, Transcript.counted, Phase.counted, Ending.counted, before]

/-- Handling a frame adds an exchange to a transcript, finished if there is no response. -/
theorem handle (records : transcript.Records dispatcher origin start stops session effect state)
    {bytes : Bytes} (stage : session.stage = .handling bytes) :
    ∃ transcript : Transcript, transcript.Records dispatcher origin start stops
      ((session.handle dispatcher bytes).run state).1.1
      (effect ++ ((session.handle dispatcher bytes).run state).1.2)
      ((session.handle dispatcher bytes).run state).2 := by
  obtain ⟨heard, finished, phase⟩ := transcript
  obtain ⟨fits, fresh, read, goesOn, frames, handled, outlets, delivered, ending, sent, counted⟩ :=
    records
  rw [stage] at fits fresh counted
  cases phase with
  | between => exact fits.elim
  | answered frame response => exact fits.elim
  | concluded ending => exact fits.elim
  | received frame =>
    obtain rfl : frame = bytes := fits
    -- The transcript keeps no log, so it is enough to know what the frame is answered with.
    have result : (session.handle dispatcher frame).run state =
        (match (answer dispatcher frame).run state with
        | ((some response, log), state) => ((session.goTo (.replying response), { log }), state)
        | ((none, log), state) => ((session.goTo (.counting .error false), { log }), state)) := by
      show ((answer dispatcher frame >>= _ : StateM σ (Session × Effect)).run state) = _
      rw [StateT.run_bind]
      rcases (answer dispatcher frame).run state with ⟨⟨response, log⟩, rest⟩
      cases response <;> rfl
    have last : (respond dispatcher frame).run state =
        (((answer dispatcher frame).run state).1.1, ((answer dispatcher frame).run state).2) := rfl
    rw [result]
    generalize (answer dispatcher frame).run state = found at last
    obtain ⟨⟨response, log⟩, rest⟩ := found
    have more := mapM_respond_snoc dispatcher _ frame handled last
    simp only [Transcript.exchanges, Phase.exchange, List.append_nil] at more
    cases response with
    | some response =>
      refine ⟨⟨heard, finished, .answered frame response⟩, rfl, ?_, read, goesOn, frames, ?_,
        outlets, delivered, by simp, (List.append_nil _).trans sent, ?_⟩
      · simp [goTo, Stage.isEarly]
      · simpa [Transcript.exchanges, Phase.exchange] using more
      · rw [Effect.counted_append, List.append_nil]
        exact counted
    | none =>
      refine ⟨⟨heard, finished ++ [⟨frame, none⟩], .between⟩, trivial, ?_, read, goesOn, ?_, ?_, ?_,
        ?_, by simp, ?_, ?_⟩
      · simp [goTo, Stage.isEarly]
      · simpa [Phase.frame, Phase.exchange] using frames
      · simpa [Transcript.exchanges, Phase.exchange] using more
      · intro _
        simpa [Transcript.responses, goTo] using outlets rfl
      · simpa [Transcript.responses] using delivered
      · simpa [Transcript.sent, Exchange.sent, Phase.sent] using sent
      · have before : effect.counted = .session :: finished.map Exchange.counter := by
          simpa [Stage.owes, Transcript.counted, Phase.counted] using counted
        simp [goTo, Stage.owes, Transcript.counted, Exchange.counter, Phase.counted, before]

/-- Sending a response finishes its exchange, or the session if it fails. -/
theorem reply (records : transcript.Records dispatcher origin start stops session effect state)
    {response : Frame} (stage : session.stage = .replying response) :
    ∃ transcript : Transcript, transcript.Records dispatcher origin start stops
      (session.reply response).1 (effect ++ (session.reply response).2) state := by
  obtain ⟨heard, finished, phase⟩ := transcript
  obtain ⟨fits, fresh, read, goesOn, frames, handled, outlets, delivered, ending, sent, counted⟩ :=
    records
  rw [stage] at fits fresh counted
  cases phase with
  | between => exact fits.elim
  | received frame => exact fits.elim
  | concluded ending => exact fits.elim
  | answered frame answer =>
    obtain rfl : answer = response := fits
    let taken := (finished.filterMap Exchange.response).length
    have used : session.connection.outgoing = origin.outgoing.drop taken := outlets rfl
    have outlet : session.connection.outlet 0 = origin.outlet taken := by
      have behind := session.connection.outlet_drop origin.outgoing taken 0
      rw [← used] at behind
      exact behind
    have before : effect.counted = .session :: finished.map Exchange.counter := by
      simpa [Stage.owes, Transcript.counted, Phase.counted] using counted
    have sentBefore : effect.sent = finished.flatMap Exchange.sent := by
      simpa [Transcript.sent, Phase.sent] using sent
    unfold Session.reply
    rw [Connection.send_eq, outlet]
    dsimp only
    generalize delivery :
      answer.deliver (origin.outlet taken).writes (origin.outlet taken).flush = result
    obtain ⟨written, flushes, result⟩ := result
    cases result with
    | ok done =>
      have whole : written = answer.encode := by
        have all := answer.deliver_written_of_ok (origin.outlet taken).writes
          (origin.outlet taken).flush (by rw [delivery])
        rwa [delivery] at all
      refine ⟨⟨heard, finished ++ [⟨frame, some answer⟩], .between⟩, trivial, ?_, read, goesOn, ?_,
        ?_, ?_, ?_, by simp, ?_, ?_⟩
      · simp [goTo, Stage.isEarly]
      · simpa [Phase.frame, Phase.exchange] using frames
      · simpa [Transcript.exchanges, Phase.exchange] using handled
      · intro _
        simp [Transcript.responses, goTo, used, taken]
      · intro index response found
        -- An earlier response was delivered before, and the last one is the one just sent.
        have split :
            (finished.filterMap Exchange.response ++ [answer])[index]? = some response := by
          simpa [Transcript.responses] using found
        by_cases earlier : index < taken
        · rw [List.getElem?_append_left earlier] at split
          exact delivered index response split
        · rw [List.getElem?_append_right (Nat.le_of_not_lt earlier)] at split
          obtain ⟨place, same⟩ := List.getElem?_eq_some_iff.mp split
          obtain rfl : index = taken := by
            simp only [List.length_singleton] at place
            omega
          obtain rfl : answer = response := by simpa using same
          rw [delivery]
      · simp [Transcript.sent, Exchange.sent, Phase.sent, sentBefore, whole]
      · simp [goTo, Stage.owes, Transcript.counted, Exchange.counter, Phase.counted, before]
    | error error =>
      refine ⟨⟨heard, finished, .concluded (.broken frame answer written error)⟩, trivial, ?_, read,
        goesOn, frames, handled, ?_, delivered, ?_, ?_, ?_⟩
      · simp [goTo, Stage.isEarly]
      · simp [Phase.isOver]
      · rintro _ ⟨⟩
        exact ⟨congrArg (·.written) delivery, congrArg (·.result) delivery⟩
      · simp [Transcript.sent, Phase.sent, Ending.sent, sentBefore]
      · simp [goTo, Stage.owes, Transcript.counted, Phase.counted, Ending.counted, before]

/-- Every step of a session that has a transcript leads to a session that has one. -/
theorem step (records : transcript.Records dispatcher origin start stops session effect state)
    (small : FrameBuffer.capacityFor dispatcher.frameLimit ≤ allocationMax) (shutdown : Bool)
    (shows : shutdown → stops) :
    ∃ transcript : Transcript, transcript.Records dispatcher origin start stops
      ((session.step dispatcher shutdown).run state).1.1
      (effect ++ ((session.step dispatcher shutdown).run state).1.2)
      ((session.step dispatcher shutdown).run state).2 := by
  have same : transcript.Records dispatcher origin start stops session (effect ++ {}) state := by
    rw [Effect.append_empty]
    exact records
  unfold Session.step
  cases stage : session.stage with
  | accepted => exact ⟨transcript, records.begin stage⟩
  | limiting => exact records.limit stage
  | opening =>
    have limit : session.buffer.limit = dispatcher.frameLimit := by
      rw [records.buffer_of_isEarly (by rw [stage]; rfl)]
    simp only [FrameBuffer.create?, limit, if_pos small]
    exact ⟨transcript, same.openBuffer stage⟩
  | polling =>
    cases shutdown with
    | false => exact ⟨transcript, (same.poll stage).1⟩
    | true => exact (records.poll stage).2 _ (shows rfl)
  | reading => exact records.receive stage
  | handling bytes => exact records.handle stage
  | replying response => exact records.reply stage
  | counting counter last => exact ⟨transcript, records.count stage⟩
  | ended => exact ⟨transcript, same⟩
  | unwound text => exact ⟨transcript, same⟩

end Transcript.Records

end Session

end ThresholdDaemon
