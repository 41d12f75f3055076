import ThresholdDaemon.Proofs.Frame.Deliver
import ThresholdDaemon.Session

/-!
# What one step of a session may do

Each step leads from one stage to another and has others see something of it. All that a step may
do is listed here once; what the buffer and the connection come to is left out.
-/
namespace ThresholdDaemon.Session

variable {σ : Type}

/-- A session does nothing any more at a stage. -/
def Stage.isLast : Stage → Bool
  | .ended | .unwound _ => true
  | _ => false

/-- A step from one stage to another, where `answers` tells the response to each frame and `asked`
whether a shutdown has been asked for. -/
inductive Goes (answers : Bytes → Option Frame) (asked : Bool) : Stage → Stage → Effect → Prop
  /-- The session begins. -/
  | begins : Goes answers asked .accepted .limiting { counted := [.session] }
  /-- The calls of the connection are limited in time. -/
  | limits : Goes answers asked .limiting .opening {}
  /-- The calls of the connection cannot be limited in time. -/
  | fails (log : List LogEvent) : Goes answers asked .limiting (.counting .error true) { log }
  /-- The buffer is allocated. -/
  | opens : Goes answers asked .opening .polling {}
  /-- The buffer cannot be allocated. -/
  | bursts (text : String) : Goes answers asked .opening (.unwound text) {}
  /-- The session ends for a shutdown. -/
  | leaves (log : List LogEvent) (shows : asked = true) : Goes answers asked .polling .ended { log }
  /-- No shutdown shows. -/
  | polls (silent : asked = false) : Goes answers asked .polling .reading {}
  /-- A frame is received. -/
  | receives (bytes : Bytes) : Goes answers asked .reading (.handling bytes) {}
  /-- The wait for a frame is given up. -/
  | waits : Goes answers asked .reading .polling {}
  /-- The peer has stopped writing. -/
  | closes (log : List LogEvent) : Goes answers asked .reading .ended { log }
  /-- No frame can be received any more. -/
  | loses (log : List LogEvent) : Goes answers asked .reading (.counting .error true) { log }
  /-- A frame is answered. -/
  | answers {bytes : Bytes} {response : Frame} (log : List LogEvent)
      (answered : answers bytes = some response) :
      Goes answers asked (.handling bytes) (.replying response) { log }
  /-- A frame has no response. -/
  | refuses {bytes : Bytes} (log : List LogEvent) (refused : answers bytes = none) :
      Goes answers asked (.handling bytes) (.counting .error false) { log }
  /-- A response is sent whole. -/
  | delivers (response : Frame) :
      Goes answers asked (.replying response) (.counting .response false)
        { sent := response.encode }
  /-- A response cannot be sent whole. -/
  | breaks {response : Frame} {sent : Bytes} (log : List LogEvent)
      (front : sent <+: response.encode) :
      Goes answers asked (.replying response) (.counting .error true) { sent, log }
  /-- Something is counted. -/
  | counts (counter : Counter) :
      Goes answers asked (.counting counter false) .polling { counted := [counter] }
  /-- The last thing is counted. -/
  | concludes (counter : Counter) :
      Goes answers asked (.counting counter true) .ended { counted := [counter] }
  /-- The session is over. -/
  | rests {stage : Stage} (done : stage.isLast = true) :
      Goes answers asked stage stage {}

/-- The response to a frame in some state of the provider. -/
def answerIn (dispatcher : Dispatcher σ) (state : σ) (bytes : Bytes) : Option Frame :=
  ((answer dispatcher bytes).run state).1.1

/-- What receiving a frame may do. -/
theorem goes_read (answers : Bytes → Option Frame) (asked : Bool) (session : Session) :
    Goes answers asked .reading session.read.1.stage session.read.2 := by
  unfold read
  generalize session.connection.receive session.buffer = found
  obtain ⟨result, buffer, connection⟩ := found
  cases result with
  | ok received =>
    cases received with
    | some bytes => exact .receives bytes
    | none => exact .closes _
  | error error =>
    by_cases timeout : error.isTimeout
    · simp only [if_pos timeout]
      exact .waits
    · simp only [if_neg timeout]
      exact .loses _

/-- What handling a frame may do. -/
theorem goes_handle (dispatcher : Dispatcher σ) (asked : Bool) (session : Session) (bytes : Bytes)
    (state : σ) :
    let taken := ((session.handle dispatcher bytes).run state).1
    Goes (answerIn dispatcher state) asked (.handling bytes) taken.1.stage taken.2 := by
  show let taken := ((answer dispatcher bytes >>= _ : StateM σ (Session × Effect)).run state).1
    Goes (answerIn dispatcher state) asked (.handling bytes) taken.1.stage taken.2
  have answered : answerIn dispatcher state bytes = ((answer dispatcher bytes).run state).1.1 := rfl
  rw [StateT.run_bind]
  generalize (answer dispatcher bytes).run state = found at answered ⊢
  obtain ⟨⟨response, log⟩, rest⟩ := found
  cases response with
  | some response => exact .answers log answered
  | none => exact .refuses log answered

/-- What sending a response may do. -/
theorem goes_reply (answers : Bytes → Option Frame) (asked : Bool) (session : Session)
    (response : Frame) :
    Goes answers asked (.replying response) (session.reply response).1.stage
      (session.reply response).2 := by
  unfold reply
  rw [Connection.send_eq]
  dsimp only
  generalize delivery : response.deliver (session.connection.outlet 0).writes
    (session.connection.outlet 0).flush = taken
  obtain ⟨written, flushed, result⟩ := taken
  cases result with
  | ok done =>
    have whole : written = response.encode := by
      have all := response.deliver_written_of_ok (session.connection.outlet 0).writes
        (session.connection.outlet 0).flush (by rw [delivery])
      rwa [delivery] at all
    subst whole
    exact .delivers response
  | error error =>
    have front := response.deliver_written_prefix (session.connection.outlet 0).writes
      (session.connection.outlet 0).flush
    rw [delivery] at front
    exact .breaks _ front

/-- All that a step of a session may do. -/
theorem goes_step (dispatcher : Dispatcher σ) (asked : Bool) (session : Session) (state : σ) :
    let taken := ((session.step dispatcher asked).run state).1
    Goes (answerIn dispatcher state) asked session.stage taken.1.stage taken.2 := by
  unfold step
  cases stage : session.stage with
  | accepted => exact .begins
  | limiting =>
    show Goes _ asked .limiting session.limit.1.stage session.limit.2
    unfold limit
    cases session.connection.unlimited with
    | none => exact .limits
    | some error => exact .fails _
  | opening =>
    dsimp only
    cases FrameBuffer.create? session.buffer.limit with
    | none => exact .bursts _
    | some buffer => exact .opens
  | polling =>
    cases asked with
    | true => exact .leaves _ rfl
    | false => exact .polls rfl
  | reading => exact session.goes_read _ asked
  | handling bytes => exact goes_handle dispatcher asked session bytes state
  | replying response => exact session.goes_reply _ asked response
  | counting counter last =>
    cases last with
    | true => exact .concludes counter
    | false => exact .counts counter
  | ended =>
    show Goes _ asked .ended session.stage {}
    rw [stage]
    exact .rests rfl
  | unwound text =>
    show Goes _ asked (.unwound text) session.stage {}
    rw [stage]
    exact .rests rfl

end ThresholdDaemon.Session
