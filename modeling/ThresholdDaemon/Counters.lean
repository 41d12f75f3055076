/-!
# Counters of a server

A server counts the failures it has dealt with, the connections it has accepted and the responses
it has written. The counters are machine words, so they count modulo `2 ^ 64`.
-/
namespace ThresholdDaemon

/-- What is counted. -/
inductive Counter where
  /-- A failure that was dealt with. -/
  | error
  /-- A connection that was accepted. -/
  | session
  /-- A response that was written. -/
  | response
  deriving DecidableEq, Repr

/-- The counters of one server. -/
structure Counters where
  /-- Failures dealt with. -/
  errors : UInt64 := 0
  /-- Connections accepted. -/
  sessions : UInt64 := 0
  /-- Responses written. -/
  responses : UInt64 := 0
  deriving DecidableEq, Repr, Inhabited

namespace Counters

/-- Count one thing. -/
def record (counters : Counters) : Counter → Counters
  | .error => { counters with errors := counters.errors + 1 }
  | .session => { counters with sessions := counters.sessions + 1 }
  | .response => { counters with responses := counters.responses + 1 }

/-- Count several things. -/
def recordAll (counters : Counters) (counted : List Counter) : Counters :=
  counted.foldl record counters

/-- The value of one counter. -/
def get (counters : Counters) : Counter → UInt64
  | .error => counters.errors
  | .session => counters.sessions
  | .response => counters.responses

end Counters

end ThresholdDaemon
