import ThresholdDaemon.Frame
import ThresholdDaemon.SystemError

/-!
# Sending frames

A frame is written whole and then flushed. A write may take only some of the bytes, in which case
the rest is written next, and a write that was interrupted is made again. A write that takes
nothing, any other failed write and a failed flush end the delivery with that error, so what the
connection has taken is always the front of the frame.
-/
namespace ThresholdDaemon

/-- What one write to a connection does. -/
inductive WriteEvent where
  /-- It takes at most this many bytes. -/
  | accepts (count : Nat)
  /-- It fails. -/
  | fails (error : SystemError)
  deriving DecidableEq, Repr

/-- What the writes to a connection do, in order; after the last one every write takes all. -/
abbrev WriteScript := List WriteEvent

/-- How far a frame got. -/
structure Delivery where
  /-- The bytes that the connection took. -/
  written : Bytes
  /-- How often the connection was flushed. -/
  flushes : Nat
  /-- Whether the frame was sent. -/
  result : Except SystemError Unit

/-- The error of a write that takes nothing. -/
def wroteNothing : SystemError := .described .writeZero "failed to write whole buffer"

namespace Delivery

/-- A delivery with some bytes taken before it. -/
def after (taken : Bytes) (delivery : Delivery) : Delivery :=
  { delivery with written := taken ++ delivery.written }

/-- All bytes are taken: flush, which fails with the given error if there is one. -/
def finish (flush : Option SystemError) : Delivery :=
  { written := [], flushes := 1
    result := match flush with
      | none => .ok ()
      | some error => .error error }

/-- A write failed. -/
def stop (error : SystemError) : Delivery := { written := [], flushes := 0, result := .error error }

/-- Write some bytes and flush. -/
def run (flush : Option SystemError) : Bytes → WriteScript → Delivery
  | [], _ => finish flush
  | bytes, [] => (finish flush).after bytes
  | bytes, .fails error :: rest =>
    if error.isInterrupted then run flush bytes rest else stop error
  | _, .accepts 0 :: _ => stop wroteNothing
  | bytes, .accepts count :: rest => (run flush (bytes.drop count) rest).after (bytes.take count)

end Delivery

/-- Send a frame. -/
def Frame.deliver (frame : Frame) (script : WriteScript) (flush : Option SystemError) : Delivery :=
  Delivery.run flush frame.encode script

end ThresholdDaemon
