/-!
# Calls of the wire protocol

Every frame names a call by a token. There are three requests, their three responses, and one
sentinel for every token outside the registry, which is never sent on purpose.
-/
namespace ThresholdDaemon

/-- What a frame asks for or answers. -/
inductive Call where
  /-- Deal a group key and its key shares. -/
  | dealRequest
  /-- The dealt group key and key shares. -/
  | dealResponse
  /-- Sign a message with one key share. -/
  | signRequest
  /-- The signature share made. -/
  | signResponse
  /-- Verify signature shares against a group key. -/
  | verifyRequest
  /-- The verdict of a verification. -/
  | verifyResponse
  /-- A token outside the registry. -/
  | unknown
  deriving DecidableEq, Repr

namespace Call

/-- The registry in wire order. -/
def all : List Call :=
  [dealRequest, dealResponse, signRequest, signResponse, verifyRequest, verifyResponse, unknown]

/-- The token that names a call on the wire. -/
def token : Call → String
  | dealRequest => "__CALL_THRESH_SIG_DEAL"
  | dealResponse => "__RET_THRESH_SIG_DEAL"
  | signRequest => "__CALL_THRESH_SIG_SIGN"
  | signResponse => "__RET_THRESH_SIG_SIGN"
  | verifyRequest => "__CALL_THRESH_SIG_VERI"
  | verifyResponse => "__RET_THRESH_SIG_VERI"
  | unknown => "__NO_CALL"

/-- The call that a token names; any text outside the registry names `unknown`. -/
def ofToken (text : String) : Call :=
  (all.find? (·.token = text)).getD unknown

/-- The response that answers a request. -/
def response : Call → Option Call
  | dealRequest => some dealResponse
  | signRequest => some signResponse
  | verifyRequest => some verifyResponse
  | dealResponse | signResponse | verifyResponse | unknown => none

/-- Every token names its own call. -/
@[simp] theorem ofToken_token (call : Call) : ofToken call.token = call := by
  cases call <;> decide

end Call

end ThresholdDaemon
