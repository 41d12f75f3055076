import ThresholdDaemon.CommandLine.Scan
import ThresholdDaemon.Host
import ThresholdDaemon.Launch

/-!
# The daemon on a host

The daemon runs its one server on a host. The workers of the server first go on when the daemon
waits for a signal. While it waits its clients make their exchanges, one after the other; then the
signal comes, or the signals turn out not to be caught.
-/
namespace ThresholdDaemon

/-- What the daemon is launched with and what happens while it waits. -/
structure Surroundings (σ : Type) where
  /-- The command line, the program name included. -/
  line : List Bytes
  /-- The environment variables. -/
  environment : CommandLine.Environment
  /-- The log that the process has already. -/
  present : Option ProcessLog := none
  /-- The provider of the server. -/
  provider : Provider σ
  /-- The state of the provider at the start. -/
  state : σ
  /-- What keeps the threads of the workers from being spawned. -/
  faults : SpawnFaults := fun _ => none
  /-- The path that the clients connect to. -/
  socket : String
  /-- What each client writes. -/
  frames : List Bytes := []
  /-- The signal, if one is told, or why the signals are not caught. -/
  signal : Except ShutdownError (Option Signal) := .ok none

/-- A host with the daemon on it. -/
structure DaemonHost (σ : Type) where
  /-- The host. -/
  host : Host σ
  /-- The log of the process, once it is set up. -/
  log : Option ProcessLog := none
  /-- What each client was sent. -/
  replies : List (Option Bytes) := []
  /-- The records that the log of the process had no place for yet. -/
  early : Nat := 0

namespace DaemonHost

variable {σ : Type}

/-- The name of the only server. -/
def serverName : String := "daemon"

/-- The name of the clients, one after the other. -/
def clientName : String := "client"

/-- What the daemon does on the host, unless it panics. -/
abbrev Action (σ : Type) := ExceptT String (StateM (DaemonHost σ))

/-- An act on the host. -/
def onHost {α : Type} (act : StateM (Host σ) α) : Action σ α := fun state =>
  let (value, host) := act state.host
  (.ok value, { state with host })

/-- What happens while the daemon waits. -/
def wait (surroundings : Surroundings σ) : Action σ (Except ShutdownError Unit) := do
  onHost (Host.settle serverName)
  for frame in surroundings.frames do
    let reply ← onHost (Host.exchange clientName surroundings.socket frame)
    modify fun state => { state with replies := state.replies ++ [reply] }
  match surroundings.signal with
  | .error error => return .error error
  | .ok none => return .ok ()
  | .ok (some signal) => do
    onHost (Host.note [signal.event])
    return .ok ()

/-- The daemon on a host. -/
def daemon (surroundings : Surroundings σ) : Daemon (Action σ) where
  load := pure (CommandLine.load surroundings.line surroundings.environment)
  initialise config := do
    let telemetry ← Daemon.setUp (Telemetry.initialise surroundings.present config)
    if let .ok telemetry := telemetry then
      modify fun state =>
        { state with
          log := some telemetry.log
          early := if telemetry.installed then state.host.log.length else 0 }
    return telemetry
  bind settings := onHost (Host.bind serverName settings surroundings.provider surroundings.state)
  start := onHost (Host.spawn serverName surroundings.faults)
  wait := wait surroundings
  stop := onHost (Host.stop serverName)
  counters := onHost do return ((← get).server? serverName).elim {} (·.counters)
  note event := onHost (Host.note [event])
  report health := onHost (Host.note [health.event])

/-- The records that the log of the process shows: those since it was set up that pass its
filter. -/
def shown (state : DaemonHost σ) : List LogRecord :=
  match state.log with
  | none => []
  | some log =>
    (state.host.log.drop state.early).filter fun record => log.filter.passes record.event

end DaemonHost

/-- Launch the daemon on a host with some files; the answer is the text of a panic if there is
one. -/
def Surroundings.launch {σ : Type} (surroundings : Surroundings σ) (files : FileSystem) :
    Except String (Except LaunchError Unit × List HealthReport) × DaemonHost σ :=
  ((DaemonHost.daemon surroundings).reporting.launch.run []).run { host := { files } }

end ThresholdDaemon
