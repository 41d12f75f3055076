import ThresholdDaemon.Proofs.Counters
import ThresholdDaemon.Proofs.Frame.Deliver
import ThresholdDaemon.Proofs.Frame.Receive
import ThresholdDaemon.Session

/-!
# Transcripts

A transcript tells a session as its peer sees it: what each call that receives a frame gave, which
exchanges of a frame for a response are finished, and what the session is at now. It fixes the bytes
sent and everything that is counted. Each step of a session keeps a transcript of all its steps
(`Transcript.Records`), so a run ends with one.
-/
namespace ThresholdDaemon.Session

variable {σ : Type}

/-- A frame that was handled and the response that it got. -/
structure Exchange where
  /-- The bytes of the frame. -/
  frame : Bytes
  /-- The response, unless the frame is an error. -/
  response : Option Frame

namespace Exchange

/-- What a finished exchange has sent: its whole response or nothing. -/
def sent (exchange : Exchange) : Bytes := exchange.response.elim [] Frame.encode

/-- What a finished exchange has counted. -/
def counter (exchange : Exchange) : Counter :=
  if exchange.response.isSome then .response else .error

end Exchange

/-- Why a session is over. -/
inductive Ending where
  /-- The calls of the connection cannot be limited in time. -/
  | unlimited (error : SystemError)
  /-- A shutdown showed. -/
  | shutdown
  /-- The peer has stopped writing. -/
  | closed
  /-- No frame could be received. -/
  | lost (error : ReceiveError)
  /-- Only some bytes of a response were taken. -/
  | broken (frame : Bytes) (response : Frame) (taken : Bytes) (error : SystemError)

namespace Ending

/-- The call that found nothing to go on with. -/
def reception : Ending → List Reception
  | closed => [.ok none]
  | lost error => [.error error]
  | unlimited _ | shutdown | broken .. => []

/-- The exchange that could not be finished. -/
def exchange : Ending → List Exchange
  | broken frame response _ _ => [⟨frame, some response⟩]
  | unlimited _ | shutdown | closed | lost _ => []

/-- What was sent of a response that could not be sent whole. -/
def sent : Ending → Bytes
  | broken _ _ taken _ => taken
  | unlimited _ | shutdown | closed | lost _ => []

/-- What the end itself counts: an error, unless the peer or the server wanted it. -/
def counted : Ending → List Counter
  | shutdown | closed => []
  | unlimited _ | lost _ | broken .. => [.error]

end Ending

/-- What a session is at. -/
inductive Phase where
  /-- No frame. -/
  | between
  /-- A frame that has been received. -/
  | received (frame : Bytes)
  /-- A frame that has been answered. -/
  | answered (frame : Bytes) (response : Frame)
  /-- Nothing any more. -/
  | concluded (ending : Ending)

namespace Phase

/-- The call that found nothing to go on with. -/
def reception : Phase → List Reception
  | concluded ending => ending.reception
  | _ => []

/-- The exchange that is not finished. -/
def exchange : Phase → List Exchange
  | answered frame response => [⟨frame, some response⟩]
  | concluded ending => ending.exchange
  | _ => []

/-- The frame that is no part of a finished exchange. -/
def frame : Phase → List Bytes
  | received frame => [frame]
  | phase => phase.exchange.map Exchange.frame

/-- What was sent of a response that could not be sent whole. -/
def sent : Phase → Bytes
  | concluded ending => ending.sent
  | _ => []

/-- What the end itself counts. -/
def counted : Phase → List Counter
  | concluded ending => ending.counted
  | _ => []

/-- The session is over. -/
def isOver : Phase → Bool
  | concluded _ => true
  | _ => false

/-- The stages at which a session is in a phase. -/
def Fits : Phase → Stage → Prop
  | between, .accepted | between, .limiting | between, .opening | between, .polling
  | between, .reading | between, .counting _ false => True
  | received frame, .handling bytes => frame = bytes
  | answered _ response, .replying frame => response = frame
  | concluded _, .counting _ true | concluded _, .ended => True
  | _, _ => False

end Phase

/-- What a session has still to count for what it has done. -/
def Stage.owes : Stage → List Counter
  | .accepted => [.session]
  | .counting counter _ => [counter]
  | _ => []

/-- The buffer has not been allocated yet. -/
def Stage.isEarly : Stage → Bool
  | .accepted | .limiting | .opening => true
  | _ => false

/-- What a session has done. -/
structure Transcript where
  /-- What the calls gave behind each of which the session went on. -/
  heard : List Reception := []
  /-- The finished exchanges. -/
  finished : List Exchange := []
  /-- What the session is at. -/
  phase : Phase := .between

namespace Transcript

/-- What all calls that receive a frame gave. -/
def receptions (transcript : Transcript) : List Reception :=
  transcript.heard ++ transcript.phase.reception

/-- All exchanges, one for each frame that was handled. -/
def exchanges (transcript : Transcript) : List Exchange :=
  transcript.finished ++ transcript.phase.exchange

/-- The responses that were sent whole. -/
def responses (transcript : Transcript) : List Frame :=
  transcript.finished.filterMap Exchange.response

/-- The bytes sent. -/
def sent (transcript : Transcript) : Bytes :=
  transcript.finished.flatMap Exchange.sent ++ transcript.phase.sent

/-- What is counted. -/
def counted (transcript : Transcript) : List Counter :=
  .session :: transcript.finished.map Exchange.counter ++ transcript.phase.counted

end Transcript

/-- The response to a frame. -/
def respond (dispatcher : Dispatcher σ) (frame : Bytes) : StateM σ (Option Frame) :=
  Prod.fst <$> answer dispatcher frame

/-- The reason why a session is over is a true one; `stops` says that a shutdown has shown. -/
def Ending.Holds (ending : Ending) (origin : Connection) (stops : Prop) (answered : Nat) : Prop :=
  match ending with
  | .unlimited error => origin.unlimited = some error
  | .shutdown => stops
  | .closed => True
  | .lost error => error.isTimeout = false
  | .broken _ response taken error =>
    let delivery :=
      response.deliver (origin.outlet answered).writes (origin.outlet answered).flush
    delivery.written = taken ∧ delivery.result = .error error

/-- A transcript tells what a session has done since it began to serve a connection `origin` with
the provider in the state `start`. -/
structure Transcript.Records (transcript : Transcript) (dispatcher : Dispatcher σ)
    (origin : Connection) (start : σ) (stops : Prop) (session : Session) (effect : Effect)
    (state : σ) : Prop where
  /-- The session is at what the transcript says. -/
  fits : transcript.phase.Fits session.stage
  /-- Nothing is done before the buffer is allocated. -/
  fresh : session.stage.isEarly → transcript.heard = [] ∧ transcript.finished = []
  /-- The calls that receive a frame gave this, and the session has what they left. -/
  read : origin.receptions dispatcher.frameLimit transcript.receptions.length =
    (transcript.receptions, session.buffer, { session.connection with outgoing := origin.outgoing })
  /-- The session went on behind each call but the last. -/
  goesOn : ∀ reception ∈ transcript.heard, Reception.goesOn reception
  /-- The frames received are those of the exchanges, in order, and the one at hand. -/
  frames : transcript.heard.filterMap Reception.frame? =
    transcript.finished.map Exchange.frame ++ transcript.phase.frame
  /-- Each frame was handled once, in order, and what it yielded is in the exchange. -/
  handled : ((transcript.exchanges.map Exchange.frame).mapM (respond dispatcher)).run start =
    (transcript.exchanges.map Exchange.response, state)
  /-- One outlet was used for each response. -/
  outlets : transcript.phase.isOver = false →
    session.connection.outgoing = origin.outgoing.drop transcript.responses.length
  /-- Responses were taken as the outlets say. -/
  delivered : ∀ index (response : Frame), transcript.responses[index]? = some response →
    (response.deliver (origin.outlet index).writes (origin.outlet index).flush).result = .ok ()
  /-- The session is over for the reason given. -/
  ending : ∀ ending, transcript.phase = .concluded ending →
    ending.Holds origin stops transcript.responses.length
  /-- The bytes sent. -/
  sent : effect.sent = transcript.sent
  /-- What has been counted and what is still to be counted. -/
  counted : effect.counted ++ session.stage.owes = transcript.counted

end ThresholdDaemon.Session
