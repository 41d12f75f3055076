import ThresholdDaemon.Json.Print
import ThresholdDaemon.Payload

/-!
# Payloads as text

Each payload is an object whose members stand in the order of its fields, with their names in
lower case joined by hyphens. A sign request has the members of its key share beside the message.
-/
namespace ThresholdDaemon

open Json

/-- The digits of a machine word. -/
def printWord (word : UInt64) : List Char := Numeral.decimal word.toNat

/-- A group key. -/
def GroupKey.print (key : GroupKey) : List Char :=
  printObject [("k", printWord key.k), ("l", printWord key.l),
    ("key-size", Numeral.decimal key.keySize.toNat), ("key", key.key.print)]

/-- The members of a key share. -/
def KeyShare.members (share : KeyShare) : List (String × List Char) :=
  [("id", printWord share.id), ("share", share.share.print)]

/-- A key share. -/
def KeyShare.print (share : KeyShare) : List Char := printObject share.members

/-- A signature share. -/
def SignatureShare.print (share : SignatureShare) : List Char :=
  printObject [("id", printWord share.id), ("signature", share.signature.print)]

/-- Dealt keys. -/
def DealtKeys.print (keys : DealtKeys) : List Char :=
  printObject [("group-key", keys.groupKey.print),
    ("shares", printArray (keys.shares.map KeyShare.print))]

/-- A request to deal keys. -/
def DealRequest.print (request : DealRequest) : List Char :=
  printObject [("key-size", Numeral.decimal request.keySize.toNat), ("l", printWord request.l),
    ("k", printWord request.k)]

/-- A request to sign. -/
def SignRequest.print (request : SignRequest) : List Char :=
  printObject (request.share.members ++ [("msg", Literal.print request.msg)])

/-- A request to verify. -/
def VerifyRequest.print (request : VerifyRequest) : List Char :=
  printObject [("group-key", request.groupKey.print),
    ("signatures", printArray (request.signatures.map SignatureShare.print)),
    ("msg", Literal.print request.msg)]

/-- A verdict. -/
def VerifyResponse.print (response : VerifyResponse) : List Char :=
  printObject [("valid", printBool response.valid)]

end ThresholdDaemon
