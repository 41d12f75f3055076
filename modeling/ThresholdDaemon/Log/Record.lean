import ThresholdDaemon.Log.Event

/-!
# Log records

The log names the thread that an event comes from: the one that launches the daemon, or one of its
workers.
-/
namespace ThresholdDaemon

/-- The threads of the daemon. -/
inductive Thread where
  /-- The thread that launches the daemon. -/
  | main
  /-- A worker. -/
  | worker (index : Nat)
  deriving DecidableEq, Repr

/-- The name of a thread. -/
def Thread.name : Thread → String
  | main => "main"
  | worker index => "acpd-worker-" ++ toString index

/-- An event and the thread that it comes from. -/
structure LogRecord where
  /-- The thread. -/
  thread : Thread
  /-- The event. -/
  event : LogEvent
  deriving DecidableEq, Repr

/-- The records of some events of one thread. -/
def Thread.records (thread : Thread) (events : List LogEvent) : List LogRecord :=
  events.map (⟨thread, ·⟩)

end ThresholdDaemon
