import ThresholdDaemon.Allocation
import ThresholdDaemon.Dispatch.Error
import ThresholdDaemon.Frame
import ThresholdDaemon.Log.Event
import ThresholdDaemon.Payload.Print

/-!
# The limit on deals

A group key is of no use if a request to verify a signature under it does not fit a frame. The
longest such request that is provided for has as many shares as sign, each with the longest number
and the longest material, and a message of a fixed length as text. Its length is found without
writing it.
-/
namespace ThresholdDaemon

/-- The bytes of a request to verify that are kept free for its message. -/
def messageHeadroom : Nat := 1024

/-- The bytes of the UTF-8 form of some characters. -/
def byteLength (text : List Char) : Nat := (Utf8.encode text).length

namespace GroupKey

/-- The largest number of a share dealt with a group key. -/
def lastId (key : GroupKey) : UInt64 := if key.l = 0 then 0 else key.l - 1

/-- The bytes of a signature share with the last number and material of a given length. -/
def shareLength (key : GroupKey) (materialLength : Nat) : Nat :=
  byteLength (SignatureShare.print ⟨key.lastId, .null⟩) - byteLength Json.Value.null.print +
    materialLength

/-- The bytes of a request to verify without shares and message, in its frame. -/
def emptyVerifyLength (key : GroupKey) : Nat :=
  (Frame.encode ⟨.verifyRequest, String.ofList (VerifyRequest.print ⟨key, [], ""⟩)⟩).length

/-- The length of a text that stands for material of a given length: its quotes are always
there. -/
def materialLength (bound : Nat) : Nat := bound - 2 + 2

/-- The most bytes that a frame with a request to verify under a group key is provided with. -/
def verifyBound (key : GroupKey) (signatureLengthBound : Nat) : Nat :=
  key.emptyVerifyLength + key.k.toNat * key.shareLength (materialLength signatureLengthBound) +
    (key.k.toNat - 1) + messageHeadroom

end GroupKey

/-- The bytes that one signature share takes in memory. -/
def shareSize : Nat := 40

/-- The longest request to verify could not even be put into memory. -/
def GroupKey.exceedsMemory (key : GroupKey) (signatureLengthBound : Nat) : Bool :=
  allocationMax < signatureLengthBound - 2 || allocationMax < key.k.toNat * shareSize

end ThresholdDaemon
