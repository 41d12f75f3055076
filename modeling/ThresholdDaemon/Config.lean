import ThresholdDaemon.Allocation
import ThresholdDaemon.Log.Format
import ThresholdDaemon.Socket.Path

/-!
# Configuration

What the daemon is told: its socket, the size of its worker pool, the longest frame it accepts,
how often it looks for a shutdown, and how it logs. All but the socket have defaults. The builders
raise a value that would be zero to one.
-/
namespace ThresholdDaemon

/-- The configuration of the daemon. -/
structure Config where
  /-- The socket to serve. -/
  socket : SocketPath
  /-- The number of workers. -/
  workers : UInt64 := 8
  /-- The most bytes of a frame. -/
  maxFrameBytes : UInt64 := 16384
  /-- The milliseconds between two looks for a shutdown. -/
  pollIntervalMs : UInt64 := 250
  /-- Which events are logged. -/
  logFilter : String := "info"
  /-- How events are logged. -/
  logFormat : LogFormat := .default
  deriving DecidableEq, Repr, Inhabited

namespace Config

/-- A count that is at least one. -/
def atLeastOne (n : UInt64) : UInt64 := if n = 0 then 1 else n

/-- Another number of workers. -/
def withWorkers (config : Config) (workers : UInt64) : Config :=
  { config with workers := atLeastOne workers }

/-- Another limit on frames. -/
def withMaxFrameBytes (config : Config) (bytes : UInt64) : Config :=
  { config with maxFrameBytes := atLeastOne bytes }

/-- Another poll interval, given in nanoseconds; what is too long for the milliseconds of a word
is the longest that is not. -/
def withPollInterval (config : Config) (nanoseconds : Nat) : Config :=
  let milliseconds := min (nanoseconds / 1000000) wordMax
  { config with pollIntervalMs := atLeastOne (UInt64.ofNat milliseconds) }

end Config

/-- What a server needs of the configuration. Zero workers are one. -/
structure ServerSettings where
  /-- The socket to serve. -/
  socket : SocketPath
  /-- The number of workers. -/
  workers : UInt64
  /-- The most bytes of a frame. -/
  maxFrameBytes : UInt64
  /-- The milliseconds between two looks for a shutdown. -/
  pollIntervalMs : UInt64
  deriving DecidableEq, Repr, Inhabited

namespace ServerSettings

/-- The settings in a configuration. -/
def ofConfig (config : Config) : ServerSettings :=
  ⟨config.socket, config.workers, config.maxFrameBytes, config.pollIntervalMs⟩

/-- The default settings for a socket. -/
def ofSocket (socket : SocketPath) : ServerSettings := ofConfig { socket }

/-- Another number of workers. -/
def withWorkers (settings : ServerSettings) (workers : UInt64) : ServerSettings :=
  { settings with workers }

/-- The number of workers that are started. -/
def workerCount (settings : ServerSettings) : Nat := max settings.workers.toNat 1

end ServerSettings

end ThresholdDaemon
