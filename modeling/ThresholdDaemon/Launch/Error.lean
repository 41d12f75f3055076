import ThresholdDaemon.CommandLine.Error
import ThresholdDaemon.Log.Filter
import ThresholdDaemon.Server
import ThresholdDaemon.Shutdown

/-!
# Failed launches

A launch fails with the error of the step that failed.
-/
namespace ThresholdDaemon

/-- Why a launch fails. -/
inductive LaunchError where
  /-- The command line gives no configuration. -/
  | configuration (error : CommandLine.UsageError)
  /-- The log cannot be set up. -/
  | telemetry (error : FilterError)
  /-- The server fails. -/
  | server (error : ServerError)
  /-- Waiting for a signal fails. -/
  | shutdown (error : ShutdownError)

/-- The text of the error. -/
def LaunchError.message : LaunchError → String
  | configuration error => "failed to load configuration: " ++ error.message
  | telemetry error => "failed to initialise telemetry: " ++ error.message
  | server error => "server failed: " ++ error.message
  | shutdown error => "failed to await shutdown signal: " ++ error.message

end ThresholdDaemon
