import ThresholdDaemon.Allocation
import ThresholdDaemon.SystemError
import ThresholdDaemon.Text.Utf8

/-!
# Receiving frames

One read of a connection is one frame. The receive buffer has one byte more than the largest
frame, so a longer one shows; its bytes are kept from one read to the next and each read writes
over their front, so a frame is exactly the bytes of its own read. Reads that were interrupted
are made again.
-/
namespace ThresholdDaemon

/-- What one read of a connection finds, before the size of the buffer limits it. -/
inductive ReadEvent where
  /-- These bytes are ready; no bytes mean that the peer has stopped writing. -/
  | ready (bytes : Bytes)
  /-- The read fails. -/
  | fails (error : SystemError)
  deriving DecidableEq, Repr

/-- What the reads of a connection find, in order; after the last one the peer has stopped
writing. -/
abbrev ReadScript := List ReadEvent

/-- What one read hands out. -/
inductive ReadResult where
  /-- These bytes, possibly none. -/
  | bytes (bytes : Bytes)
  /-- An error. -/
  | error (error : SystemError)
  deriving DecidableEq, Repr

/-- One read into a buffer of some capacity; bytes that do not fit wait for the next read. -/
def ReadScript.read (capacity : Nat) : ReadScript → ReadResult × ReadScript
  | [] => (.bytes [], [])
  | .fails error :: rest => (.error error, rest)
  | .ready bytes :: rest =>
    if bytes.length ≤ capacity then (.bytes bytes, rest)
    else (.bytes (bytes.take capacity), .ready (bytes.drop capacity) :: rest)

/-- Why no frame was received. -/
inductive ReceiveError where
  /-- The read gave more bytes than a frame may have. -/
  | frameTooLarge (limit : Nat)
  /-- The read failed. -/
  | failed (error : SystemError)
  deriving DecidableEq, Repr

namespace ReceiveError

/-- The text of a receive error. -/
def message : ReceiveError → String
  | frameTooLarge limit => "frame exceeds the " ++ toString limit ++ " byte receive limit"
  | failed error => "failed to read frame: " ++ error.message

/-- The read only waited as long as it may. -/
def isTimeout : ReceiveError → Bool
  | frameTooLarge _ => false
  | failed error => error.isTimeout

end ReceiveError

/-- A receive buffer. -/
structure FrameBuffer where
  /-- The largest frame accepted, in bytes. -/
  limit : Nat
  /-- The front of the buffer as reads have left it; behind it the buffer is untouched. -/
  stored : Bytes := []
  deriving DecidableEq, Repr

namespace FrameBuffer

/-- The frame limit of a connection that sets none. -/
def defaultLimit : Nat := 16 * 1024

/-- The size of the buffer for a frame limit. -/
def capacityFor (limit : Nat) : Nat := min (limit + 1) wordMax

/-- An empty buffer; a size that cannot be allocated gives none. -/
def create? (limit : Nat) : Option FrameBuffer :=
  if capacityFor limit ≤ allocationMax then some { limit } else none

/-- The size of a buffer. -/
def capacity (buffer : FrameBuffer) : Nat := capacityFor buffer.limit

/-- The buffer after a read has written some bytes over its front. -/
def store (buffer : FrameBuffer) (bytes : Bytes) : FrameBuffer :=
  { buffer with stored := bytes ++ buffer.stored.drop bytes.length }

/-- The first bytes of the buffer. -/
def front (buffer : FrameBuffer) (count : Nat) : Bytes := buffer.stored.take count

/-- What a finished read of some bytes amounts to. -/
def accept (buffer : FrameBuffer) (count : Nat) : Except ReceiveError (Option Bytes) :=
  if count = 0 then .ok none
  else if buffer.limit < count then .error (.frameTooLarge buffer.limit)
  else .ok (some (buffer.front count))

/-- Receive one frame; none when the peer has stopped writing. -/
def receive (buffer : FrameBuffer) :
    ReadScript → Except ReceiveError (Option Bytes) × FrameBuffer × ReadScript
  | [] => (.ok none, buffer, [])
  | .fails error :: rest =>
    if error.isInterrupted then receive buffer rest
    else (.error (.failed error), buffer, rest)
  | .ready bytes :: rest =>
    match ReadScript.read buffer.capacity (.ready bytes :: rest) with
    | (.bytes found, rest) =>
      let buffer := buffer.store found
      (buffer.accept found.length, buffer, rest)
    | (.error error, rest) => (.error (.failed error), buffer, rest)

/-- Receive a number of frames one after the other. -/
def receiveMany : Nat → FrameBuffer → ReadScript → List (Except ReceiveError (Option Bytes))
  | 0, _, _ => []
  | count + 1, buffer, script =>
    let (result, buffer, script) := buffer.receive script
    result :: receiveMany count buffer script

end FrameBuffer

end ThresholdDaemon
