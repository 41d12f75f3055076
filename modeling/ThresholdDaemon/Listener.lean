import ThresholdDaemon.FileSystem.Calls
import ThresholdDaemon.Log.Event

/-!
# Listeners

A listener owns the socket that it has made at a path. When it goes away it removes whatever the
path names by then and closes its socket.
-/
namespace ThresholdDaemon

/-- Why there is no listener, or why its workers have not ended well. -/
inductive ListenerError where
  /-- The socket cannot be kept from blocking. -/
  | nonBlocking (error : SystemError)
  /-- The socket cannot be made. -/
  | bind (path : String) (error : SystemError)
  /-- Another listener is at the path. -/
  | inUse (path : String)
  /-- Something else than a socket is at the path. -/
  | notSocket (path : String)
  /-- What is at the path cannot be told. -/
  | metadata (path : String) (error : SystemError)
  /-- Whether somebody listens cannot be told. -/
  | probe (path : String) (error : SystemError)
  /-- A socket that nobody listens at cannot be removed. -/
  | cleanup (path : String) (error : SystemError)
  /-- A worker cannot be started. -/
  | spawnWorker (index : Nat) (error : SystemError)
  /-- A worker has unwound. -/
  | threadPanic
  deriving DecidableEq, Repr

/-- The text of the error. -/
def ListenerError.message : ListenerError → String
  | nonBlocking error => "failed to enable non-blocking listener: " ++ error.message
  | bind path error => "failed to bind unix listener at " ++ path ++ ": " ++ error.message
  | inUse path => "existing unix socket " ++ path ++ " is already in use"
  | notSocket path => "unix socket path " ++ path ++ " is not a socket"
  | metadata path error =>
    "failed to read metadata for unix socket " ++ path ++ ": " ++ error.message
  | probe path error =>
    "failed to connect to existing unix socket " ++ path ++ ": " ++ error.message
  | cleanup path error => "failed to remove stale unix socket " ++ path ++ ": " ++ error.message
  | spawnWorker index error =>
    "failed to spawn worker thread " ++ toString index ++ ": " ++ error.message
  | threadPanic => "listener worker thread panicked"

/-- A listener. -/
structure Listener where
  /-- The path of its socket. -/
  path : String
  /-- Its socket. -/
  socket : NodeId
  deriving DecidableEq, Repr

/-- The listener goes away. -/
def Listener.release (listener : Listener) (fs : FileSystem) : FileSystem × List LogEvent :=
  match fs.remove listener.path with
  | .ok fs => (fs.closeSocket listener.socket, [])
  | .error error =>
    (fs.closeSocket listener.socket,
      if error.errorKind = .notFound then []
      else [LogEvent.Source.transport.event .warn "failed to remove unix socket file"
        [("error", .shown error.message), ("path", .shown listener.path)]])

end ThresholdDaemon
