import ThresholdDaemon.Connection
import ThresholdDaemon.Counters
import ThresholdDaemon.Dispatch

/-!
# Sessions

A session serves one connection: once the calls of the connection are limited in time, it looks for
a shutdown, receives a frame, handles it, sends the response and starts over. It goes in small
steps, each of which does at most one thing that others can see, so that sessions of several
workers can take their steps in any order. A frame that gets no response is counted as an error and
the session goes on; a failed read or write ends it.

The buffer for frames is allocated before the first one is received. If its size is more than can
be allocated the session unwinds, which no step after that does: a panic of the provider is caught
and counted.
-/
namespace ThresholdDaemon

/-- What a session is about to do. -/
inductive Session.Stage where
  /-- Count itself. -/
  | accepted
  /-- Limit how long the calls of its connection may take. -/
  | limiting
  /-- Allocate its buffer. -/
  | opening
  /-- Look for a shutdown. -/
  | polling
  /-- Receive a frame. -/
  | reading
  /-- Handle a frame. -/
  | handling (bytes : Bytes)
  /-- Send a response. -/
  | replying (frame : Frame)
  /-- Count something, after which the session is over if this is the last thing that it does. -/
  | counting (counter : Counter) (last : Bool)
  /-- Nothing. -/
  | ended
  /-- Nothing, because of a panic. -/
  | unwound (text : String)
  deriving DecidableEq, Repr

/-- A session. -/
structure Session where
  /-- The connection that it serves. -/
  connection : Connection
  /-- The buffer for frames. -/
  buffer : FrameBuffer
  /-- What it is about to do. -/
  stage : Session.Stage := .accepted
  deriving DecidableEq, Repr

/-- What others see of some steps. -/
structure Effect where
  /-- The bytes sent. -/
  sent : Bytes := []
  /-- What is counted. -/
  counted : List Counter := []
  /-- The events logged. -/
  log : List LogEvent := []
  deriving DecidableEq, Repr

/-- Effects in order. -/
instance : Append Effect where
  append first second :=
    ⟨first.sent ++ second.sent, first.counted ++ second.counted, first.log ++ second.log⟩

namespace Session

variable {σ : Type}

/-- An event of a session. -/
def event (severity : Severity) (message : String) (fields : List (String × FieldValue) := []) :
    LogEvent := LogEvent.Source.transport.event severity message fields

/-- The field that shows an error. -/
def errorField (text : String) : String × FieldValue := ("error", .shown text)

/-- A new session. -/
def accept (frameLimit : Nat) (connection : Connection) : Session where
  connection
  buffer := { limit := frameLimit }

/-- The session does nothing any more. -/
def isOver (session : Session) : Bool :=
  match session.stage with
  | .ended | .unwound _ => true
  | _ => false

/-- The session has nothing to do until its peer writes or a shutdown comes. -/
def isIdle (session : Session) : Bool :=
  session.stage = .polling && session.connection.isQuiet

/-- The session at another stage. -/
def goTo (session : Session) (stage : Stage) : Session := { session with stage }

/-- Limit how long the calls of the connection may take. -/
def limit (session : Session) : Session × Effect :=
  match session.connection.unlimited with
  | none => (session.goTo .opening, {})
  | some error =>
    (session.goTo (.counting .error true),
      { log := [event .warn "failed to configure connection" [errorField error.message]] })

/-- Receive a frame. -/
def read (session : Session) : Session × Effect :=
  let (result, buffer, connection) := session.connection.receive session.buffer
  let session := { session with buffer, connection }
  match result with
  | .ok (some bytes) => (session.goTo (.handling bytes), {})
  | .ok none => (session.goTo .ended, { log := [event .debug "peer closed connection"] })
  | .error error =>
    if error.isTimeout then (session.goTo .polling, {})
    else
      let message := match error with
        | .frameTooLarge _ => "closing connection"
        | .failed _ => "connection read failed"
      (session.goTo (.counting .error true),
        { log := [event .warn message [errorField error.message]] })

/-- What becomes of a frame: the response to it, or what is logged in place of one. -/
def answer (dispatcher : Dispatcher σ) (bytes : Bytes) :
    StateM σ (Option Frame × List LogEvent) := do
  match RawFrame.decode bytes with
  | .error error => return (none, [event .warn "framing error" [errorField error.message]])
  | .ok frame =>
    let handled ← dispatcher.dispatch frame.call frame.payload
    match handled.reply with
    | .frame response => return (some response, handled.log)
    | .nothing =>
      return (none, handled.log ++
        [event .warn "no appropriate response" [("token", .text frame.token)]])
    | .failed error =>
      return (none, handled.log ++
        [event .warn "request failed"
          [("call", .shown frame.call.token), errorField error.message]])
    | .panicked _ => return (none, handled.log ++ [event .error "request handling panicked"])

/-- Handle a frame. -/
def handle (dispatcher : Dispatcher σ) (session : Session) (bytes : Bytes) :
    StateM σ (Session × Effect) := do
  let (response, log) ← answer dispatcher bytes
  match response with
  | some frame => return (session.goTo (.replying frame), { log })
  | none => return (session.goTo (.counting .error false), { log })

/-- Send a response. -/
def reply (session : Session) (frame : Frame) : Session × Effect :=
  let (delivery, connection) := session.connection.send frame
  let session := { session with connection }
  match delivery.result with
  | .ok () => (session.goTo (.counting .response false), { sent := delivery.written })
  | .error error =>
    (session.goTo (.counting .error true),
      { sent := delivery.written
        log := [event .warn "failed to write response" [errorField error.message]] })

/-- Take the next step. -/
def step (dispatcher : Dispatcher σ) (shutdown : Bool) (session : Session) :
    StateM σ (Session × Effect) :=
  match session.stage with
  | .accepted => pure (session.goTo .limiting, { counted := [.session] })
  | .limiting => pure session.limit
  | .opening =>
    match FrameBuffer.create? session.buffer.limit with
    | none => pure (session.goTo (.unwound allocationPanic), {})
    | some buffer => pure ({ session with buffer, stage := .polling }, {})
  | .polling =>
    if shutdown then
      pure (session.goTo .ended, { log := [event .debug "closing session for shutdown"] })
    else pure (session.goTo .reading, {})
  | .reading => pure session.read
  | .handling bytes => session.handle dispatcher bytes
  | .replying frame => pure (session.reply frame)
  | .counting counter last =>
    pure (session.goTo (if last then .ended else .polling), { counted := [counter] })
  | .ended | .unwound _ => pure (session, {})

/-- Take a number of steps; a shutdown shows from step `moment` on, counted from `time`. -/
def runFrom (dispatcher : Dispatcher σ) (moment : Option Nat) : (fuel time : Nat) → Session →
    StateM σ (Session × Effect)
  | 0, _, session => pure (session, {})
  | fuel + 1, time, session => do
    let shutdown := moment.any (· ≤ time)
    let (session, effect) ← session.step dispatcher shutdown
    let (session, more) ← runFrom dispatcher moment fuel (time + 1) session
    return (session, effect ++ more)

/-- Enough steps to end a session whose peer has stopped writing: five for each read and those
at the start and the end. -/
def budget (session : Session) : Nat := 5 * session.connection.incoming.length + 6

/-- Take steps, at most as many as `fuel`, until there is nothing to do for the time being. -/
def settleFor (dispatcher : Dispatcher σ) (shutdown : Bool) : (fuel : Nat) → Session →
    StateM σ (Session × Effect)
  | 0, session => pure (session, {})
  | fuel + 1, session =>
    if session.isOver || (session.isIdle && !shutdown) then pure (session, {})
    else do
      let (session, effect) ← session.step dispatcher shutdown
      let (session, more) ← settleFor dispatcher shutdown fuel session
      return (session, effect ++ more)

/-- Take steps until there is nothing to do for the time being. -/
def settle (dispatcher : Dispatcher σ) (shutdown : Bool) (session : Session) :
    StateM σ (Session × Effect) :=
  session.settleFor dispatcher shutdown session.budget

end Session

end ThresholdDaemon
