import ThresholdDaemon.Config
import ThresholdDaemon.Listener.Binding
import ThresholdDaemon.Socket.Directory
import ThresholdDaemon.WorkerPool

/-!
# Servers

A server is bound to its socket, runs with its workers, and is gone. From binding on its socket
takes connections, which wait until workers run. The last worker to end takes the listener with it,
so once a server has been joined its path is free. The socket of a server that never runs goes
away with it. A server runs with all of its workers or with none: if the thread of one of them
cannot be spawned, those before it are asked to end and waited for, and then the listener goes.
-/
namespace ThresholdDaemon

/-- Why a server fails. -/
inductive ServerError where
  /-- The directory of its socket cannot be prepared. -/
  | prepare (error : PrepareError)
  /-- Its listener fails. -/
  | listener (error : ListenerError)
  deriving DecidableEq, Repr

/-- The text of the error. -/
def ServerError.message : ServerError → String
  | prepare error => "failed to prepare socket directory: " ++ error.message
  | listener error => error.message

/-- A server whose socket is bound. -/
structure BoundServer where
  /-- Its settings. -/
  settings : ServerSettings
  /-- Its listener. -/
  listener : Listener
  /-- The connections that wait. -/
  waiting : List Connection := []
  deriving DecidableEq, Repr

/-- A server whose workers have been started. -/
structure RunningServer where
  /-- Its settings. -/
  settings : ServerSettings
  /-- Its listener; none once the last worker has ended. -/
  listener : Option Listener
  /-- Its workers. -/
  pool : WorkerPool
  deriving DecidableEq, Repr

/-- What an attempt to bind a server comes to. -/
structure BindOutcome where
  /-- The server, or why there is none. -/
  result : Except ServerError BoundServer
  /-- The listener that the attempt has connected to. -/
  probed : Option NodeId := none
  /-- The events logged. -/
  log : List LogEvent := []

/-- What an attempt to start a server comes to. -/
structure StartOutcome where
  /-- Why the workers do not run, if they do not. -/
  result : Except ServerError Unit := .ok ()
  /-- The server; its workers are over if they do not run. -/
  server : RunningServer
  /-- What the workers have done. -/
  turns : List Turn := []
  /-- The events logged. -/
  log : List LogEvent := []

/-- What keeps the thread of a worker from being spawned, if anything does. -/
abbrev SpawnFaults := Nat → Option SystemError

/-- Bind a server: prepare the directory of its socket, then bind the socket. -/
def BoundServer.bind (settings : ServerSettings) (fs : FileSystem) : FileSystem × BindOutcome :=
  match settings.socket.prepare fs with
  | (fs, .error error) => (fs, { result := .error (.prepare error) })
  | (fs, .ok ()) =>
    let ((binding, log), fs) := Binding.run FileSystem.socketCalls settings.socket.path fs
    let result := match binding.result with
      | .ok listener => .ok { settings, listener }
      | .error error => .error (.listener error)
    (fs, { result, probed := binding.probed, log })

namespace BoundServer

/-- The server goes away. -/
def drop (server : BoundServer) (fs : FileSystem) : FileSystem × List LogEvent :=
  server.listener.release fs

/-- The server with all of its workers, which have done nothing yet. -/
def running (server : BoundServer) : RunningServer where
  settings := server.settings
  listener := some server.listener
  pool := WorkerPool.start server.settings.workerCount server.waiting

/-- The server with so many of its workers, which have done nothing yet. -/
def withWorkers (server : BoundServer) (count : Nat) : RunningServer where
  settings := server.settings
  listener := some server.listener
  pool := { workers := List.replicate count .starting, waiting := server.waiting }

/-- The events of a server whose workers have been started. -/
def startedEvents (server : BoundServer) : List LogEvent :=
  let settings := server.settings
  let socket : String × FieldValue := ("socket", .shown settings.socket.render)
  let workers : String × FieldValue := ("workers", .count settings.workerCount)
  [LogEvent.Source.transport.event .info "socket listener active" [socket, workers],
    LogEvent.Source.server.event .info "server started"
      [socket, workers, ("max_frame_bytes", .count settings.maxFrameBytes.toNat)]]

/-- The first worker whose thread cannot be spawned. -/
def unspawned? (server : BoundServer) (faults : SpawnFaults) : Option (Nat × SystemError) :=
  (List.range server.settings.workerCount).findSome? fun index => (faults index).map (index, ·)

end BoundServer

namespace RunningServer

variable {σ : Type}

/-- The dispatcher of a server: its provider and its limit on frames. -/
def dispatcher (server : RunningServer) (provider : Provider σ) : Dispatcher σ :=
  ⟨provider, server.settings.maxFrameBytes.toNat⟩

/-- The last worker takes the listener with it. -/
def releaseIfOver (server : RunningServer) (fs : FileSystem) :
    RunningServer × FileSystem × List Turn :=
  match server.listener with
  | none => (server, fs, [])
  | some listener =>
    if server.pool.isOver then
      let (fs, log) := listener.release fs
      let last := server.pool.workers.length - 1
      ({ server with listener := none }, fs, if log.isEmpty then [] else [⟨last, none, { log }⟩])
    else (server, fs, [])

/-- The workers go on until they have nothing to do. -/
def settle (server : RunningServer) (provider : Provider σ) (fs : FileSystem) :
    StateM σ (RunningServer × FileSystem × List Turn) := do
  let (pool, turns) ← server.pool.settle (server.dispatcher provider)
  let (server, fs, more) := { server with pool }.releaseIfOver fs
  return (server, fs, turns ++ more)

/-- Not all workers could be started: those that have been are asked to end and waited for, then the
listener goes. -/
def abandon (server : RunningServer) (provider : Provider σ) (fs : FileSystem) :
    StateM σ (FileSystem × RunningServer × List Turn × List LogEvent) := do
  let pool := server.pool.requestShutdown
  let (pool, turns) ← pool.settle (server.dispatcher provider)
  let (fs, log) := server.listener.elim (fs, []) (·.release fs)
  return (fs, { server with pool, listener := none }, turns, log)

/-- A connection arrives. -/
def arrive (server : RunningServer) (connection : Connection) : RunningServer :=
  { server with pool := server.pool.arrive connection }

/-- Ask for a shutdown. -/
def requestShutdown (server : RunningServer) : RunningServer :=
  { server with pool := server.pool.requestShutdown }

/-- The counters of the server. -/
def counters (server : RunningServer) : Counters := server.pool.counters

/-- What joining the workers of a server comes to, once they are all over. -/
def joined (server : RunningServer) : Except ServerError (List LogEvent) :=
  if server.pool.hasUnwound then .error (.listener .threadPanic)
  else
    let counters := server.counters
    .ok [LogEvent.Source.server.event .info "server stopped"
      [("socket", .shown server.settings.socket.render),
        ("errors", .count counters.errors.toNat), ("sessions", .count counters.sessions.toNat),
        ("responses", .count counters.responses.toNat)]]

end RunningServer

/-- Start the workers of a server. -/
def BoundServer.start {σ : Type} (server : BoundServer) (faults : SpawnFaults)
    (provider : Provider σ) (fs : FileSystem) : StateM σ (FileSystem × StartOutcome) :=
  match server.unspawned? faults with
  | none => return (fs, { server := server.running, log := server.startedEvents })
  | some (index, error) => do
    let (fs, left, turns, log) ← (server.withWorkers index).abandon provider fs
    let result := .error (.listener (.spawnWorker index error))
    return (fs, { result, server := left, turns, log })

end ThresholdDaemon
