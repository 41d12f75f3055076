import ThresholdDaemon.Frame.Deliver
import ThresholdDaemon.Frame.Receive

/-!
# Connections

A connection as its session sees it: whether its calls can be limited in time, what the reads find,
and how the writes of each response go.
Once everything that has come is read, the peer has stopped writing; as long as it may still write,
a read waits for a while instead and then gives up.
-/
namespace ThresholdDaemon

/-- How one response is taken. -/
structure Outlet where
  /-- What the writes do. -/
  writes : WriteScript := []
  /-- The error of the flush, if it fails. -/
  flush : Option SystemError := none
  deriving DecidableEq, Repr

/-- The peer of a session. -/
structure Connection where
  /-- The number under which the connection arrived. -/
  number : Nat := 0
  /-- The error of limiting how long its calls may take, if that fails. -/
  unlimited : Option SystemError := none
  /-- What the next reads find. -/
  incoming : ReadScript := []
  /-- The peer may still write. -/
  mayWrite : Bool := false
  /-- How the next responses are taken, one each; all after them are taken whole. -/
  outgoing : List Outlet := []
  deriving DecidableEq, Repr

namespace Connection

/-- The error of a read that has waited for as long as it may. -/
def waited : SystemError := .code 11

/-- The error of a write to a peer that has gone. -/
def broken : SystemError := .code 32

/-- The error of a read when the peer has gone and left a response unread. -/
def reset : SystemError := .code 104

/-- There is nothing to read yet. -/
def isQuiet (connection : Connection) : Bool := connection.mayWrite && connection.incoming.isEmpty

/-- What the next reads find, a wait included. -/
def reads (connection : Connection) : ReadScript :=
  if connection.isQuiet then [.fails waited] else connection.incoming

/-- Receive a frame. -/
def receive (connection : Connection) (buffer : FrameBuffer) :
    Except ReceiveError (Option Bytes) × FrameBuffer × Connection :=
  let (result, buffer, rest) := buffer.receive connection.reads
  (result, buffer, { connection with incoming := rest })

/-- Send a response. -/
def send (connection : Connection) (frame : Frame) : Delivery × Connection :=
  match connection.outgoing with
  | [] => (frame.deliver [] none, connection)
  | outlet :: rest =>
    (frame.deliver outlet.writes outlet.flush, { connection with outgoing := rest })

/-- The peer writes some bytes. They join those that have not been read. -/
def push (connection : Connection) (bytes : Bytes) : Connection :=
  match connection.incoming.getLast? with
  | some (.ready waiting) =>
    { connection with incoming := connection.incoming.dropLast ++ [.ready (waiting ++ bytes)] }
  | _ => { connection with incoming := connection.incoming ++ [.ready bytes] }

/-- The peer stops writing but still reads. -/
def finish (connection : Connection) : Connection := { connection with mayWrite := false }

/-- The peer stops reading. -/
def deafen (connection : Connection) : Connection :=
  { connection with outgoing := [⟨[.fails broken], none⟩] }

/-- The peer goes away. A response that it has not read makes the next read fail. -/
def abandon (connection : Connection) (unread : Bool) : Connection :=
  let connection := connection.finish.deafen
  if unread then { connection with incoming := connection.incoming ++ [.fails reset] }
  else connection

end Connection

end ThresholdDaemon
