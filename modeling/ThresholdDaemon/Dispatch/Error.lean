import ThresholdDaemon.Call
import ThresholdDaemon.Provider

/-!
# Failed requests

A request fails when its payload is missing or cannot be read, when what it asks for makes no
sense or could never be used, or when the provider refuses it. The peer is told nothing of it.
-/
namespace ThresholdDaemon

/-- Why a deal makes no sense. -/
inductive DealRefusal where
  /-- Nobody would be needed to sign. -/
  | noSigners
  /-- More would be needed to sign than there are. -/
  | tooManySigners (k l : UInt64)
  /-- A request to verify could be longer than a frame may be. -/
  | verifyTooLong (k : UInt64) (bound limit : Nat)
  deriving DecidableEq, Repr

/-- The text of a refusal. -/
def DealRefusal.message : DealRefusal → String
  | noSigners => "k must be at least 1"
  | tooManySigners k l =>
    "k (" ++ toString k.toNat ++ ") must not exceed l (" ++ toString l.toNat ++ ")"
  | verifyTooLong k bound limit =>
    "a verify request for k = " ++ toString k.toNat ++ " may need " ++ toString bound ++
      " bytes, above the " ++ toString limit ++ "-byte frame limit"

/-- Why a request failed. -/
inductive DispatchError where
  /-- There is no payload. -/
  | missingPayload (call : Call)
  /-- The payload cannot be read. -/
  | malformedPayload (call : Call) (fault : Json.Fault)
  /-- The deal makes no sense. -/
  | invalidArguments (refusal : DealRefusal)
  /-- The provider refuses. -/
  | provider (error : ProviderError)
  deriving DecidableEq, Repr

/-- The text of an error. -/
def DispatchError.message : DispatchError → String
  | missingPayload call => call.token ++ " requires a payload"
  | malformedPayload call fault => "malformed " ++ call.token ++ " payload: " ++ fault.message
  | invalidArguments refusal => "invalid arguments: " ++ refusal.message
  | provider error => "crypto provider failed: " ++ error.message

end ThresholdDaemon
