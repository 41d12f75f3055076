import ThresholdDaemon.Proofs.Session.Step

/-!
# Runs of sessions

A run keeps a transcript as its steps do. It comes to an end: without a shutdown because every call
that receives a frame uses up some of what the reads find, and once a shutdown shows because the
session looks for it before each such call.
-/
namespace ThresholdDaemon.Session

variable {σ : Type}

/-- Serve a connection for a number of steps; a shutdown shows from step `moment` on. -/
def serve (dispatcher : Dispatcher σ) (moment : Option Nat) (origin : Connection) (fuel : Nat) :
    StateM σ (Session × Effect) :=
  (accept dispatcher.frameLimit origin).runFrom dispatcher moment fuel 0

/-- Every run of a session that has a transcript leads to a session that has one. -/
theorem Transcript.Records.runFrom {transcript : Transcript} {dispatcher : Dispatcher σ}
    {origin : Connection} {start : σ} {session : Session} {effect : Effect} {state : σ}
    {moment : Option Nat}
    (records : transcript.Records dispatcher origin start moment.isSome session effect state)
    (small : FrameBuffer.capacityFor dispatcher.frameLimit ≤ allocationMax) (fuel time : Nat) :
    ∃ transcript : Transcript, transcript.Records dispatcher origin start moment.isSome
      ((session.runFrom dispatcher moment fuel time).run state).1.1
      (effect ++ ((session.runFrom dispatcher moment fuel time).run state).1.2)
      ((session.runFrom dispatcher moment fuel time).run state).2 := by
  -- What the steps so far have done goes into the transcript, so that each step may extend it.
  induction fuel generalizing transcript session effect state time with
  | zero =>
    rw [← effect.append_empty] at records
    exact ⟨transcript, records⟩
  | succ fuel ih =>
    obtain ⟨later, laterRecords⟩ := records.step small (moment.any (· ≤ time))
      (fun shows => by cases moment <;> simp_all)
    obtain ⟨last, lastRecords⟩ := ih laterRecords (time + 1)
    rw [Effect.append_assoc] at lastRecords
    exact ⟨last, lastRecords⟩

/-- A bound of the steps left at a stage once a shutdown shows. -/
def Stage.hurried : Stage → Nat
  | .accepted => 8
  | .limiting => 7
  | .opening => 6
  | .reading => 5
  | .handling _ => 4
  | .replying _ => 3
  | .counting .. => 2
  | .polling => 1
  | .ended | .unwound _ => 0

/-- A bound of the steps left at a stage with a number of reads to come: five for each read, and
those behind the last one. -/
def Stage.patient (reads : Nat) : Stage → Nat
  | .accepted | .handling _ => 5 * reads + 6
  | .limiting | .replying _ => 5 * reads + 5
  | .opening | .counting _ false => 5 * reads + 4
  | .polling => 5 * reads + 3
  | .reading => 5 * reads + 2
  | .counting _ true => 1
  | .ended | .unwound _ => 0

/-- A bound of the steps left of a session whose peer has stopped writing. -/
def patience (session : Session) : Nat :=
  session.stage.patient session.connection.incoming.length

/-- A session that does nothing any more takes no step. -/
theorem step_of_isOver (dispatcher : Dispatcher σ) (shutdown : Bool) {session : Session}
    (concluded : session.isOver) (state : σ) :
    (session.step dispatcher shutdown).run state = ((session, {}), state) := by
  unfold Session.step
  cases stage : session.stage <;> simp_all [isOver] <;> rfl

/-- A run of a session that does nothing any more does nothing. -/
theorem runFrom_of_isOver (dispatcher : Dispatcher σ) (moment : Option Nat) (fuel time : Nat)
    {session : Session} (concluded : session.isOver) (state : σ) :
    (session.runFrom dispatcher moment fuel time).run state = ((session, {}), state) := by
  induction fuel generalizing time with
  | zero => rfl
  | succ fuel ih =>
    show (let first := (session.step dispatcher (moment.any (· ≤ time))).run state
      let next := (first.1.1.runFrom dispatcher moment fuel (time + 1)).run first.2
      ((next.1.1, first.1.2 ++ next.1.2), next.2)) = _
    rw [step_of_isOver dispatcher _ concluded]
    dsimp only
    rw [ih]
    rfl

/-- A run comes to an end if something that bounds its length falls with each step. -/
theorem isOver_runFrom (dispatcher : Dispatcher σ) (moment : Option Nat)
    (good : Session → Prop) (left : Nat → Session → Nat)
    (falls : ∀ time session state, good session → session.isOver = false →
      good ((session.step dispatcher (moment.any (· ≤ time))).run state).1.1 ∧
        left (time + 1) ((session.step dispatcher (moment.any (· ≤ time))).run state).1.1 <
          left time session)
    (fuel time : Nat) (session : Session) (state : σ) (start : good session)
    (enough : left time session ≤ fuel) :
    ((session.runFrom dispatcher moment fuel time).run state).1.1.isOver := by
  induction fuel generalizing time session state with
  | zero =>
    cases concluded : session.isOver with
    | true => exact concluded
    | false =>
      have less := (falls time session state start concluded).2
      omega
  | succ fuel ih =>
    cases concluded : session.isOver with
    | true =>
      rw [runFrom_of_isOver dispatcher moment _ time concluded]
      exact concluded
    | false =>
      have next := falls time session state start concluded
      exact ih (time + 1) _ _ next.1 (Nat.le_of_lt_succ (Nat.lt_of_lt_of_le next.2 enough))

/-- What becomes of a session that receives a frame: it stays the same but for what the call leaves,
and goes on only behind a frame or a wait that was given up. -/
theorem read_next (session : Session) :
    ∃ stage, session.read.1 =
        { connection := (session.connection.receive session.buffer).2.2
          buffer := (session.connection.receive session.buffer).2.1
          stage } ∧
      (stage = .ended ∨ stage = .counting .error true ∨
        (stage = .polling ∨ ∃ bytes, stage = .handling bytes) ∧
          Reception.goesOn (session.connection.receive session.buffer).1) := by
  unfold Session.read
  generalize session.connection.receive session.buffer = found
  obtain ⟨result, buffer, connection⟩ := found
  cases result with
  | ok received =>
    cases received with
    | some bytes => exact ⟨.handling bytes, rfl, .inr (.inr ⟨.inr ⟨bytes, rfl⟩, rfl⟩)⟩
    | none => exact ⟨.ended, rfl, .inl rfl⟩
  | error error =>
    by_cases timeout : error.isTimeout
    · simp only [if_pos timeout]
      exact ⟨.polling, rfl, .inr (.inr ⟨.inl rfl, timeout⟩)⟩
    · simp only [if_neg timeout]
      exact ⟨.counting .error true, rfl, .inr (.inl rfl)⟩

/-- What becomes of a session that handles a frame: it has a response to send, or an error to
count. -/
theorem handle_next (dispatcher : Dispatcher σ) (session : Session) (bytes : Bytes) (state : σ) :
    ∃ stage, ((session.handle dispatcher bytes).run state).1.1 = session.goTo stage ∧
      (stage = .counting .error false ∨ ∃ response, stage = .replying response) := by
  show ∃ stage, ((answer dispatcher bytes >>= _ : StateM σ (Session × Effect)).run state).1.1 =
    session.goTo stage ∧ _
  rw [StateT.run_bind]
  rcases (answer dispatcher bytes).run state with ⟨⟨response, log⟩, rest⟩
  cases response with
  | none => exact ⟨.counting .error false, rfl, .inl rfl⟩
  | some response => exact ⟨.replying response, rfl, .inr ⟨response, rfl⟩⟩

/-- What becomes of a session that sends a response: it has that to count, or that it failed. -/
theorem reply_next (session : Session) (response : Frame) :
    ∃ stage, (session.reply response).1 =
        { session with
          connection := { session.connection with outgoing := session.connection.outgoing.drop 1 }
          stage } ∧
      (stage = .counting .response false ∨ stage = .counting .error true) := by
  unfold Session.reply
  rw [Connection.send_eq]
  dsimp only
  cases (response.deliver (session.connection.outlet 0).writes
    (session.connection.outlet 0).flush).result with
  | ok done => exact ⟨.counting .response false, rfl, .inl rfl⟩
  | error error => exact ⟨.counting .error true, rfl, .inr rfl⟩

/-- Once a shutdown shows, each step leaves fewer steps to take. -/
theorem hurried_step (dispatcher : Dispatcher σ) (session : Session) (state : σ)
    (goesOn : session.isOver = false) :
    ((session.step dispatcher true).run state).1.1.stage.hurried < session.stage.hurried := by
  unfold Session.step
  cases stage : session.stage with
  | accepted => exact Nat.lt_add_one 7
  | limiting =>
    unfold limit
    cases session.connection.unlimited with
    | none => exact Nat.lt_add_one 6
    | some error => exact (by decide : 2 < 7)
  | opening =>
    cases FrameBuffer.create? session.buffer.limit with
    | none => exact (by decide : 0 < 6)
    | some buffer => exact (by decide : 1 < 6)
  | polling => exact Nat.lt_add_one 0
  | reading =>
    show session.read.1.stage.hurried < 5
    obtain ⟨stage, next, rfl | rfl | ⟨rfl | ⟨bytes, rfl⟩, -⟩⟩ := session.read_next <;>
      rw [next] <;> simp [Stage.hurried]
  | handling bytes =>
    show ((session.handle dispatcher bytes).run state).1.1.stage.hurried < 4
    obtain ⟨stage, next, rfl | ⟨response, rfl⟩⟩ := handle_next dispatcher session bytes state <;>
      rw [next] <;> simp [goTo, Stage.hurried]
  | replying response =>
    show (session.reply response).1.stage.hurried < 3
    obtain ⟨stage, next, rfl | rfl⟩ := session.reply_next response <;>
      rw [next] <;> simp [Stage.hurried]
  | counting counter last =>
    cases last with
    | false => exact Nat.lt_add_one 1
    | true => exact (by decide : 0 < 2)
  | ended => simp [isOver, stage] at goesOn
  | unwound text => simp [isOver, stage] at goesOn

/-- No stage is further from the end than the first. -/
theorem Stage.hurried_le (stage : Stage) : stage.hurried ≤ 8 := by
  cases stage <;> simp [hurried]

/-- Receiving a frame from a peer that has stopped writing keeps the limit of the buffer and leaves
fewer steps to take, as it uses up something of what the reads find. -/
theorem patience_read (session : Session) (small : session.buffer.limit < wordMax)
    (silent : session.connection.mayWrite = false) :
    (session.read.1.buffer.limit = session.buffer.limit ∧
      session.read.1.connection.mayWrite = false) ∧
      session.read.1.patience <
        Stage.patient session.connection.incoming.length .reading := by
  have reads : session.connection.reads = session.connection.incoming := by
    simp [Connection.reads, Connection.isQuiet, silent]
  have limit : (session.connection.receive session.buffer).2.1.limit = session.buffer.limit :=
    FrameBuffer.receive_limit _ _
  have shrinks : Reception.goesOn (session.connection.receive session.buffer).1 →
      (session.connection.receive session.buffer).2.2.incoming.length <
        session.connection.incoming.length := by
    simp only [Connection.receive, reads]
    exact FrameBuffer.receive_shrinks _ _ small
  have keeps : (session.connection.receive session.buffer).2.2.mayWrite = false := silent
  obtain ⟨found, next, cases⟩ := session.read_next
  rw [next]
  refine ⟨⟨limit, keeps⟩, ?_⟩
  simp only [patience]
  obtain rfl | rfl | ⟨rfl | ⟨bytes, rfl⟩, heard⟩ := cases
  · exact Nat.succ_pos _
  · simp [Stage.patient]
  · have less := shrinks heard
    simp only [Stage.patient]
    omega
  · have less := shrinks heard
    simp only [Stage.patient]
    omega

/-- A step keeps the limit of the buffer, and that the peer has stopped writing; it leaves fewer
steps to take then. -/
theorem patience_step (dispatcher : Dispatcher σ) (shutdown : Bool) (session : Session) (state : σ)
    (small : session.buffer.limit < wordMax) (silent : session.connection.mayWrite = false)
    (goesOn : session.isOver = false) :
    let next := ((session.step dispatcher shutdown).run state).1.1
    (next.buffer.limit = session.buffer.limit ∧ next.connection.mayWrite = false) ∧
      next.patience < session.stage.patient session.connection.incoming.length := by
  unfold Session.step
  cases stage : session.stage with
  | accepted => exact ⟨⟨rfl, silent⟩, Nat.lt_add_one _⟩
  | limiting =>
    unfold limit
    cases session.connection.unlimited with
    | none => exact ⟨⟨rfl, silent⟩, Nat.lt_add_one _⟩
    | some error => exact ⟨⟨rfl, silent⟩, Nat.le_add_left 2 (5 * _ + 3)⟩
  | opening =>
    cases created : FrameBuffer.create? session.buffer.limit with
    | none => exact ⟨⟨rfl, silent⟩, Nat.succ_pos _⟩
    | some buffer =>
      simp only [FrameBuffer.create?, Option.ite_none_right_eq_some] at created
      have limit := congrArg FrameBuffer.limit (Option.some.inj created.2)
      exact ⟨⟨limit.symm, silent⟩, Nat.lt_add_one _⟩
  | polling =>
    cases shutdown with
    | false => exact ⟨⟨rfl, silent⟩, Nat.lt_add_one _⟩
    | true => exact ⟨⟨rfl, silent⟩, Nat.succ_pos _⟩
  | reading => exact session.patience_read small silent
  | handling bytes =>
    obtain ⟨found, next, cases⟩ := handle_next dispatcher session bytes state
    simp only [next]
    refine ⟨⟨rfl, silent⟩, ?_⟩
    obtain rfl | ⟨response, rfl⟩ := cases <;> simp [patience, Stage.patient, goTo]
  | replying response =>
    show ((session.reply response).1.buffer.limit = _ ∧
      (session.reply response).1.connection.mayWrite = false) ∧
      (session.reply response).1.patience < _
    obtain ⟨found, next, cases⟩ := session.reply_next response
    rw [next]
    refine ⟨⟨rfl, silent⟩, ?_⟩
    obtain rfl | rfl := cases <;> simp [patience, Stage.patient]
  | counting counter last =>
    cases last with
    | false => exact ⟨⟨rfl, silent⟩, Nat.lt_add_one _⟩
    | true => exact ⟨⟨rfl, silent⟩, Nat.lt_add_one _⟩
  | ended => simp [isOver, stage] at goesOn
  | unwound text => simp [isOver, stage] at goesOn

/-- A session whose peer has stopped writing is over within its budget. -/
theorem isOver_runFrom_of_silent (dispatcher : Dispatcher σ) (moment : Option Nat)
    (fuel time : Nat) (session : Session) (state : σ) (small : session.buffer.limit < wordMax)
    (silent : session.connection.mayWrite = false) (enough : session.patience ≤ fuel) :
    ((session.runFrom dispatcher moment fuel time).run state).1.1.isOver := by
  refine isOver_runFrom dispatcher moment
    (fun session => session.buffer.limit < wordMax ∧ session.connection.mayWrite = false)
    (fun _ session => session.patience) ?_ fuel time session state ⟨small, silent⟩ enough
  rintro time session state ⟨small, silent⟩ goesOn
  obtain ⟨⟨limit, keeps⟩, less⟩ := patience_step dispatcher (moment.any (· ≤ time)) session state
    small silent goesOn
  exact ⟨⟨limit ▸ small, keeps⟩, less⟩

/-- A session is over soon after a shutdown shows. -/
theorem isOver_runFrom_of_shutdown (dispatcher : Dispatcher σ) (moment fuel time : Nat)
    (session : Session) (state : σ) (enough : moment - time + 8 ≤ fuel) :
    ((session.runFrom dispatcher (some moment) fuel time).run state).1.1.isOver := by
  refine isOver_runFrom dispatcher (some moment) (fun _ => True)
    (fun time session => moment - time + if time < moment then 8 else session.stage.hurried)
    ?_ fuel time session state trivial ?_
  -- Until the shutdown shows only the time runs out, from then on the stages do.
  · intro time session state _ goesOn
    refine ⟨trivial, ?_⟩
    by_cases early : time < moment
    · have bound := Stage.hurried_le
        ((session.step dispatcher ((some moment).any (· ≤ time))).run state).1.1.stage
      simp only [if_pos early]
      split <;> omega
    · have shows : (some moment).any (· ≤ time) = true := by
        simpa using Nat.le_of_not_lt early
      have less := hurried_step dispatcher session state goesOn
      rw [shows, if_neg early, if_neg (by omega)]
      omega
  · have bound := session.stage.hurried_le
    split <;> omega

end ThresholdDaemon.Session
