import ThresholdDaemon.Config
import ThresholdDaemon.Log.Filter

/-!
# The log of a process

A process writes one log, in the form and with the filter of the first launch that sets it up.
Later launches in the process use that log, but their filters have to be sound all the same.
-/
namespace ThresholdDaemon

/-- The log that a process writes. -/
structure ProcessLog where
  /-- The form of its lines. -/
  format : LogFormat
  /-- Which events it has. -/
  filter : LogFilter
  deriving DecidableEq, Repr

/-- What a launch learns of the log. -/
structure Telemetry where
  /-- The log of the process from now on. -/
  log : ProcessLog
  /-- This launch has set it up. -/
  installed : Bool
  deriving DecidableEq, Repr

/-- Set up the log of a process, unless it has been set up before. -/
def Telemetry.initialise (present : Option ProcessLog) (config : Config) :
    Except FilterError Telemetry := do
  let filter ← LogFilter.load config.logFilter
  match present with
  | some log => return ⟨log, false⟩
  | none => return ⟨⟨config.logFormat, filter⟩, true⟩

end ThresholdDaemon
