/-!
# Log events

An event has a severity, a target that says which part of the daemon it comes from, a message
and named fields. The value of a field is a text, a number, a truth value, or something shown in
its own words, which the compact form of the log does not quote.
-/
namespace ThresholdDaemon

/-- How grave an event is, the least grave first. -/
inductive Severity where
  /-- For those who look for a fault. -/
  | debug
  /-- The usual course. -/
  | info
  /-- A fault that was dealt with. -/
  | warn
  /-- A fault of the daemon itself. -/
  | error
  deriving DecidableEq, Repr

namespace Severity

/-- The name in the log. -/
def name : Severity → String
  | debug => "DEBUG"
  | info => "INFO"
  | warn => "WARN"
  | error => "ERROR"

/-- The place in the order of gravity; finer events than any here would stand below. -/
def rank : Severity → Nat
  | debug => 1
  | info => 2
  | warn => 3
  | error => 4

end Severity

/-- The value of a field. -/
inductive FieldValue where
  /-- A text. -/
  | text (value : String)
  /-- Something shown in its own words. -/
  | shown (value : String)
  /-- A number. -/
  | count (value : Nat)
  /-- A truth value. -/
  | truth (value : Bool)
  deriving DecidableEq, Repr

/-- An event. -/
structure LogEvent where
  /-- How grave it is. -/
  severity : Severity
  /-- Which part of the daemon it comes from. -/
  target : String
  /-- What happened. -/
  message : String
  /-- The details. -/
  fields : List (String × FieldValue) := []
  deriving DecidableEq, Repr

/-- The parts of the daemon that write to the log. -/
inductive LogEvent.Source where
  /-- The handling of requests. -/
  | dispatch
  /-- Connections and their sessions. -/
  | transport
  /-- The life of a server. -/
  | server
  /-- The life of the process. -/
  | process
  /-- What the daemon tells its supervisor. -/
  | health
  deriving DecidableEq, Repr

/-- The target of the events of a part. -/
def LogEvent.Source.target : LogEvent.Source → String
  | dispatch => "acpd::dispatch"
  | transport => "acpd::transport"
  | server => "acpd::server"
  | process => "acpd::process"
  | health => "acpd::health"

/-- An event of a part. -/
def LogEvent.Source.event (source : LogEvent.Source) (severity : Severity) (message : String)
    (fields : List (String × FieldValue) := []) : LogEvent :=
  ⟨severity, source.target, message, fields⟩

end ThresholdDaemon
