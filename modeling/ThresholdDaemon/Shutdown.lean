import ThresholdDaemon.Log.Event
import ThresholdDaemon.SystemError

/-!
# Shutdown signals

A signal ends the daemon. Waiting for one fails when the signals cannot be caught.
-/
namespace ThresholdDaemon

/-- The signals that end the daemon. -/
inductive Signal where
  /-- The terminal has gone. -/
  | hangup
  /-- Somebody interrupts at the terminal. -/
  | interrupt
  /-- Somebody quits at the terminal. -/
  | quit
  /-- Somebody asks for the end. -/
  | terminate
  deriving DecidableEq, Repr

/-- The number of a signal. -/
def Signal.number : Signal → Nat
  | hangup => 1
  | interrupt => 2
  | quit => 3
  | terminate => 15

/-- The event of a signal. -/
def Signal.event (signal : Signal) : LogEvent :=
  LogEvent.Source.process.event .info "shutdown signal received" [("signal", .count signal.number)]

/-- Why waiting for a signal fails. -/
structure ShutdownError where
  /-- The error of catching the signals. -/
  error : SystemError
  deriving DecidableEq, Repr

/-- The text of the error. -/
def ShutdownError.message (error : ShutdownError) : String :=
  "failed to install signal handlers: " ++ error.error.message

end ThresholdDaemon
