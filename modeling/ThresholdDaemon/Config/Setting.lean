import ThresholdDaemon.Config
import ThresholdDaemon.Decimal.Count
import ThresholdDaemon.Text.Utf8

/-!
# Settings

Each setting can be given on the command line and by an environment variable. The socket is given
by its place on the command line, every other setting by an option with its name. Their values
are read from text: counts in decimal from one up, the log format by its name, the socket by its
path or address, and the log filter as it is.
-/
namespace ThresholdDaemon

/-- What can be set. -/
inductive Setting where
  /-- The socket. -/
  | socket
  /-- The number of workers. -/
  | workers
  /-- The limit on frames. -/
  | maxFrameBytes
  /-- The poll interval. -/
  | pollIntervalMs
  /-- The log filter. -/
  | logFilter
  /-- The log format. -/
  | logFormat
  deriving DecidableEq, Repr

namespace Setting

/-- The settings in the order in which they are looked at. -/
def all : List Setting := [socket, workers, maxFrameBytes, pollIntervalMs, logFilter, logFormat]

/-- The name of the option; the socket has none. -/
def option? : Setting → Option String
  | socket => none
  | workers => some "workers"
  | maxFrameBytes => some "max-frame-bytes"
  | pollIntervalMs => some "poll-interval-ms"
  | logFilter => some "log-filter"
  | logFormat => some "log-format"

/-- What usage texts call the value. -/
def valueName : Setting → String
  | socket => "SOCKET"
  | workers => "WORKERS"
  | maxFrameBytes => "MAX_FRAME_BYTES"
  | pollIntervalMs => "POLL_INTERVAL_MS"
  | logFilter => "LOG_FILTER"
  | logFormat => "LOG_FORMAT"

/-- The environment variable. -/
def environmentName : Setting → String
  | socket => "ACP_SOCKET"
  | workers => "ACP_WORKERS"
  | maxFrameBytes => "ACP_MAX_FRAME_BYTES"
  | pollIntervalMs => "ACP_POLL_INTERVAL_MS"
  | logFilter => "ACP_LOG_FILTER"
  | logFormat => "ACP_LOG_FORMAT"

/-- What the help says of a setting. -/
def help : Setting → String
  | socket => "Path of the Unix domain socket to serve"
  | workers => "Number of worker threads accepting and serving connections"
  | maxFrameBytes => "Largest accepted request frame, in bytes"
  | pollIntervalMs => "Milliseconds between shutdown checks while accepting or reading"
  | logFilter => "Tracing filter directive, for example `info` or `acpd=debug`"
  | logFormat => "Log output format"

/-- The default as the help shows it. -/
def defaultText? : Setting → Option String
  | socket => none
  | workers => some "8"
  | maxFrameBytes => some "16384"
  | pollIntervalMs => some "250"
  | logFilter => some "info"
  | logFormat => some "json"

/-- A setting in usage texts. -/
def usage (setting : Setting) : String :=
  match setting.option? with
  | none => "<" ++ setting.valueName ++ ">"
  | some option => "--" ++ option ++ " <" ++ setting.valueName ++ ">"

end Setting

/-- The settings that have been given a value. -/
structure Given where
  /-- The socket. -/
  socket : Option SocketPath := none
  /-- The number of workers. -/
  workers : Option UInt64 := none
  /-- The limit on frames. -/
  maxFrameBytes : Option UInt64 := none
  /-- The poll interval. -/
  pollIntervalMs : Option UInt64 := none
  /-- The log filter. -/
  logFilter : Option String := none
  /-- The log format. -/
  logFormat : Option LogFormat := none
  deriving DecidableEq, Repr

namespace Given

/-- Give a setting the value of a text, or say why it has none. -/
def assign (given : Given) (setting : Setting) (text : String) : Except String Given :=
  match setting with
  | .socket =>
    match SocketPath.parse text with
    | .ok socket => .ok { given with socket := some socket }
    | .error error => .error error.message
  | .workers =>
    match readCount text with
    | .ok count => .ok { given with workers := some count }
    | .error fault => .error fault.message
  | .maxFrameBytes =>
    match readCount text with
    | .ok count => .ok { given with maxFrameBytes := some count }
    | .error fault => .error fault.message
  | .pollIntervalMs =>
    match readCount text with
    | .ok count => .ok { given with pollIntervalMs := some count }
    | .error fault => .error fault.message
  | .logFilter => .ok { given with logFilter := some text }
  | .logFormat =>
    match LogFormat.ofText? text with
    | some format => .ok { given with logFormat := some format }
    | none => .error LogFormat.unknownName

/-- The configuration of the given values and the defaults, if there is a socket. -/
def toConfig? (given : Given) : Option Config :=
  given.socket.map fun socket =>
    let base : Config := { socket }
    { base with
      workers := given.workers.getD base.workers
      maxFrameBytes := given.maxFrameBytes.getD base.maxFrameBytes
      pollIntervalMs := given.pollIntervalMs.getD base.pollIntervalMs
      logFilter := given.logFilter.getD base.logFilter
      logFormat := given.logFormat.getD base.logFormat }

end Given

end ThresholdDaemon
