import ThresholdDaemon.Health
import ThresholdDaemon.Log.Telemetry

/-!
# Launching the daemon

A launch loads the configuration, sets up the log, binds and starts the server, waits for a signal
and stops the server, in this order. The first step that fails ends the launch, except that a
server that runs is always stopped, also when waiting for the signal has failed. Each launch ends
with a report that the daemon has stopped or that it has failed, and with the error of that report.
-/
namespace ThresholdDaemon

/-- The parts of a daemon, which act in `m`. -/
structure Daemon (m : Type → Type) where
  /-- Load the configuration. -/
  load : m (Except CommandLine.UsageError Config)
  /-- Set up the log. -/
  initialise : Config → m (Except FilterError Telemetry)
  /-- Bind the server. -/
  bind : ServerSettings → m (Except ServerError Unit)
  /-- Start the workers. -/
  start : m (Except ServerError Unit)
  /-- Wait for a signal. -/
  wait : m (Except ShutdownError Unit)
  /-- Stop the server: ask its workers to end and wait for them. -/
  stop : m (Except ServerError Unit)
  /-- The counters of the server. -/
  counters : m Counters
  /-- Write an event to the log. -/
  note : LogEvent → m Unit
  /-- Report to the supervisor. -/
  report : HealthReport → m Unit

namespace Daemon

variable {m : Type → Type} [Monad m] {α ε : Type}

/-- A part of the daemon, whose error ends the launch. -/
def attempt (act : m (Except ε α)) (wrap : ε → LaunchError) : ExceptT LaunchError m α := do
  match ← act with
  | .ok value => return value
  | .error error => throw (wrap error)

/-- What setting up the log comes to: a filter that would have to be cut inside a character makes
the daemon panic. -/
def setUp [MonadExceptOf String m] :
    Except FilterError Telemetry → m (Except FilterError Telemetry)
  | .error error =>
    match error.panic? with
    | some message => throw message
    | none => return .error error
  | .ok telemetry => return .ok telemetry

/-- The event of a launch whose log has been set up. -/
def runtimeEvent (config : Config) (telemetry : Telemetry) : LogEvent :=
  LogEvent.Source.process.event .info "starting daemon runtime"
    [("socket", .shown config.socket.render), ("log_format", .shown telemetry.log.format.name),
      ("subscriber_installed", .truth telemetry.installed)]

/-- The event of a launch that has come to its end. -/
def completedEvent : LogEvent :=
  LogEvent.Source.process.event .info "shutdown sequence completed"

/-- The launch between its first and its last report. -/
def supervise (daemon : Daemon m) : ExceptT LaunchError m Unit := do
  let config ← attempt daemon.load .configuration
  let telemetry ← attempt (daemon.initialise config) .telemetry
  daemon.note (runtimeEvent config telemetry)
  attempt (daemon.bind (.ofConfig config)) .server
  attempt daemon.start .server
  daemon.report (.ready config)
  let waited ← daemon.wait
  daemon.report .stopping
  attempt daemon.stop .server
  attempt (pure waited) .shutdown
  daemon.report (.stopped (← daemon.counters))
  daemon.note completedEvent

/-- Launch the daemon. -/
def launch (daemon : Daemon m) : m (Except LaunchError Unit) := do
  daemon.report .starting
  match ← daemon.supervise.run with
  | .ok () => return .ok ()
  | .error error => do
    daemon.report (.failed error)
    return .error error

/-- A daemon that also lists its reports, in order. -/
def reporting (daemon : Daemon m) : Daemon (StateT (List HealthReport) m) where
  load := liftM daemon.load
  initialise config := liftM (daemon.initialise config)
  bind settings := liftM (daemon.bind settings)
  start := liftM daemon.start
  wait := liftM daemon.wait
  stop := liftM daemon.stop
  counters := liftM daemon.counters
  note event := liftM (daemon.note event)
  report health := do
    modify (· ++ [health])
    liftM (daemon.report health)

end Daemon

end ThresholdDaemon
