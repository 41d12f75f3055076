import ThresholdDaemon.Dispatch.Deal
import ThresholdDaemon.Payload.Read

/-!
# Requests and their answers

A request is answered by the frame of its response. A call that asks for nothing is passed over,
a request that fails is told apart by its error, and a panic of the provider ends the handling of
its request. No request makes more than one call of the provider, and none before its payload has
been read.
-/
namespace ThresholdDaemon

/-- What becomes of a call. -/
inductive Reply where
  /-- It is answered. -/
  | frame (frame : Frame)
  /-- It asks for nothing. -/
  | nothing
  /-- It fails. -/
  | failed (error : DispatchError)
  /-- Its handling panics. -/
  | panicked (text : String)
  deriving DecidableEq, Repr

/-- What becomes of a call, and the events logged about it. -/
structure Handled where
  /-- What becomes of the call. -/
  reply : Reply
  /-- The events, in order. -/
  log : List LogEvent := []
  deriving DecidableEq, Repr

/-- A provider and the length that frames may have. -/
structure Dispatcher (σ : Type) where
  /-- The provider. -/
  provider : Provider σ
  /-- The most bytes of a frame. -/
  frameLimit : Nat

namespace Dispatcher

open Json (Reader depthLimit)

variable {σ α : Type}

/-- An event about a request. -/
def event (severity : Severity) (message : String) (fields : List (String × FieldValue)) :
    LogEvent := LogEvent.Source.dispatch.event severity message fields

/-- Read the payload of a request and handle it. -/
def withPayload (call : Call) (payload : Option String) (read : Nat → Reader α)
    (handle : α → StateM σ Handled) : StateM σ Handled :=
  match payload with
  | none => pure { reply := .failed (.missingPayload call) }
  | some text =>
    match (read depthLimit).run text with
    | .error fault => pure { reply := .failed (.malformedPayload call fault) }
    | .ok request => handle request

/-- A request is answered by a payload. -/
def answered (call response : Call) (payload : List Char) (log : List LogEvent := []) :
    Handled where
  reply := .frame ⟨response, some (String.ofList payload)⟩
  log := log ++ [event .debug "request handled"
    [("call", .shown call.token), ("response", .shown response.token)]]

/-- The answer to a request to deal, once keys have been dealt. -/
def answerDeal (frameLimit signatureLength : Nat) (request : DealRequest) (keys : DealtKeys) :
    Handled :=
  if keys.groupKey.exceedsMemory signatureLength then { reply := .panicked allocationPanic }
  else
    let bound := keys.groupKey.verifyBound signatureLength
    if frameLimit < bound then
      { reply := .failed (.invalidArguments (.verifyTooLong request.k bound frameLimit)) }
    else
      answered .dealRequest .dealResponse keys.print
        [event .debug "dealt threshold keys"
          [("key_size", .count request.keySize.toNat), ("l", .count request.l.toNat),
            ("k", .count request.k.toNat), ("shares", .count keys.shares.length),
            ("verify_bound", .count bound)]]

/-- Handle a request to deal. -/
def deal (dispatcher : Dispatcher σ) (request : DealRequest) : StateM σ Handled := do
  if request.k = 0 then return { reply := .failed (.invalidArguments .noSigners) }
  if request.l < request.k then
    return { reply := .failed (.invalidArguments (.tooManySigners request.k request.l)) }
  match ← dispatcher.provider.deal request.keySize request.l request.k with
  | .returns keys =>
    return answerDeal dispatcher.frameLimit dispatcher.provider.signatureLengthBound request keys
  | .refuses error => return { reply := .failed (.provider error) }
  | .panics text => return { reply := .panicked text }

/-- Handle a request to sign. The answer has the number of the share that signs. -/
def sign (dispatcher : Dispatcher σ) (request : SignRequest) : StateM σ Handled := do
  match ← dispatcher.provider.sign request.share (Bytes.ofString request.msg) with
  | .returns signed =>
    let share : SignatureShare := ⟨request.share.id, signed.signature⟩
    return answered .signRequest .signResponse share.print
  | .refuses error => return { reply := .failed (.provider error) }
  | .panics text => return { reply := .panicked text }

/-- The answer to a request to verify. -/
def verdict (valid : Bool) (log : List LogEvent := []) : Handled :=
  answered .verifyRequest .verifyResponse (VerifyResponse.print ⟨valid⟩) log

/-- Handle a request to verify. Too few shares and an error of the provider are a verdict too. -/
def verify (dispatcher : Dispatcher σ) (request : VerifyRequest) : StateM σ Handled := do
  let supplied := request.signatures.length
  let needed := request.groupKey.k.toNat
  if supplied < needed then
    return verdict false [event .debug "not enough signature shares to verify"
      [("supplied", .count supplied), ("required", .count needed)]]
  match ← dispatcher.provider.verify request.groupKey request.signatures
      (Bytes.ofString request.msg) with
  | .returns valid => return verdict valid
  | .refuses error =>
    return verdict false [event .warn "signature verification rejected its input"
      [("error", .shown error.message)]]
  | .panics text => return { reply := .panicked text }

/-- Handle a call. -/
def dispatch (dispatcher : Dispatcher σ) (call : Call) (payload : Option String) :
    StateM σ Handled :=
  match call with
  | .dealRequest => withPayload call payload DealRequest.shape.read dispatcher.deal
  | .signRequest => withPayload call payload SignRequest.read dispatcher.sign
  | .verifyRequest => withPayload call payload VerifyRequest.shape.read dispatcher.verify
  | .dealResponse | .signResponse | .verifyResponse | .unknown =>
    pure { reply := .nothing
           log := [event .debug "call has no handler" [("call", .shown call.token)]] }

end Dispatcher

end ThresholdDaemon
