import ThresholdDaemon.Server

/-!
# Hosts

A host has a file system, servers known by names and the clients of their connections. Each
operation lets the servers go on until all of them wait for somebody else, so what an operation
shows depends only on the operations before it.
-/
namespace ThresholdDaemon

/-- How far the life of a server has got. -/
inductive ServerPhase where
  /-- Its socket is bound. -/
  | bound (server : BoundServer)
  /-- Its workers have been started. -/
  | running (server : RunningServer)
  /-- It is gone, with these counters. -/
  | gone (counters : Counters)
  deriving DecidableEq, Repr

/-- A server on a host, with its provider and the state of that. -/
structure HostedServer (σ : Type) where
  /-- The provider. -/
  provider : Provider σ
  /-- The state of the provider. -/
  state : σ
  /-- The socket. -/
  socket : SocketPath
  /-- How far its life has got. -/
  phase : ServerPhase

/-- The counters of a server. -/
def HostedServer.counters {σ : Type} (hosted : HostedServer σ) : Counters :=
  match hosted.phase with
  | .bound _ => {}
  | .running server => server.counters
  | .gone counters => counters

/-- A host. -/
structure Host (σ : Type) where
  /-- The file system. -/
  files : FileSystem
  /-- The servers by their names. -/
  servers : List (String × HostedServer σ) := []
  /-- The connections of the clients by the names of these. -/
  clients : List (String × Nat) := []
  /-- The number of the next connection. -/
  arrivals : Nat := 0
  /-- What connections have been sent and their clients have not read, by their numbers. -/
  unread : List (Nat × Bytes) := []
  /-- The log of all servers. -/
  log : List LogRecord := []

namespace Host

variable {σ : Type}

/-- The server with a name. -/
def server? (host : Host σ) (name : String) : Option (HostedServer σ) := host.servers.lookup name

/-- Put a server under a name. -/
def putServer (host : Host σ) (name : String) (hosted : HostedServer σ) : Host σ :=
  if host.servers.any (·.1 = name) then
    { host with servers := host.servers.map fun (other, old) =>
        (other, if other = name then hosted else old) }
  else { host with servers := host.servers ++ [(name, hosted)] }

/-- Write events of the main thread to the log. -/
def note (events : List LogEvent) : StateM (Host σ) Unit :=
  modify fun host => { host with log := host.log ++ Thread.main.records events }

/-- Keep what some turns have sent for the clients, and log their events. -/
def observe (host : Host σ) (turns : List Turn) : Host σ :=
  { host with
    log := host.log ++ Turn.records turns
    unread := turns.foldl (fun unread turn =>
      match turn.connection with
      | none => unread
      | some number =>
        if turn.effect.sent.isEmpty then unread else unread ++ [(number, turn.effect.sent)])
      host.unread }

/-- The workers of a server go on until they have nothing to do. -/
def settle (name : String) : StateM (Host σ) Unit :=
  modify fun host =>
    match host.server? name with
    | some hosted =>
      match hosted.phase with
      | .running server =>
        let ((server, files, turns), state) :=
          server.settle hosted.provider host.files hosted.state
        let host := host.putServer name { hosted with state, phase := .running server }
        { host with files }.observe turns
      | _ => host
    | none => host

/-- A server owns the socket with a number. -/
def owns (socket : NodeId) (hosted : HostedServer σ) : Bool :=
  match hosted.phase with
  | .bound server => server.listener.socket = socket
  | .running server => server.listener.any (·.socket = socket)
  | .gone _ => false

/-- A connection arrives at a server. -/
def arriveAt (connection : Connection) (hosted : HostedServer σ) : HostedServer σ :=
  match hosted.phase with
  | .bound server =>
    { hosted with phase := .bound { server with waiting := server.waiting ++ [connection] } }
  | .running server => { hosted with phase := .running (server.arrive connection) }
  | .gone _ => hosted

/-- A connection arrives at the socket with a number. -/
def deliver (socket : NodeId) (connection : Connection) : StateM (Host σ) Unit := do
  let host ← get
  match host.servers.find? fun (_, hosted) => owns socket hosted with
  | none => return ()
  | some (name, hosted) =>
    set (host.putServer name (arriveAt connection hosted))
    settle name

/-- The number of a new connection. -/
def nextNumber : StateM (Host σ) Nat :=
  modifyGet fun host => (host.arrivals, { host with arrivals := host.arrivals + 1 })

/-- A client connects to a path. -/
def connect (client path : String) : StateM (Host σ) (Except SystemError Unit) := do
  match (← get).files.connectTo path with
  | .error error => return .error error
  | .ok socket =>
    let number ← nextNumber
    modify fun host => { host with clients := (client, number) :: host.clients }
    deliver socket { number, mayWrite := true }
    return .ok ()

/-- Change the connection of a client, and let its server go on. -/
def changeConnection (client : String) (change : Connection → Connection) :
    StateM (Host σ) Unit := do
  match (← get).clients.lookup client with
  | none => return ()
  | some number =>
    for (name, hosted) in (← get).servers do
      match hosted.phase with
      | .bound server =>
        let changed (connection : Connection) : Connection :=
          if connection.number = number then change connection else connection
        let server := { server with waiting := server.waiting.map changed }
        modify (·.putServer name { hosted with phase := .bound server })
      | .running server =>
        if server.pool.holds number then
          let server := { server with pool := server.pool.changeConnection number change }
          modify (·.putServer name { hosted with phase := .running server })
          settle name
      | .gone _ => pure ()

/-- A client writes. -/
def write (client : String) (bytes : Bytes) : StateM (Host σ) Unit :=
  if bytes.isEmpty then pure () else changeConnection client (·.push bytes)

/-- A client reads all that it has been sent; there is no answer if it has been sent nothing. -/
def read (client : String) : StateM (Host σ) (Option Bytes) :=
  modifyGet fun host =>
    match host.clients.lookup client with
    | none => (none, host)
    | some number =>
      match (host.unread.filter (·.1 = number)).flatMap (·.2) with
      | [] => (none, host)
      | sent => (some sent, { host with unread := host.unread.filter (·.1 ≠ number) })

/-- A client stops writing. -/
def finish (client : String) : StateM (Host σ) Unit := changeConnection client Connection.finish

/-- A client goes away. -/
def leave (client : String) : StateM (Host σ) Unit := do
  let left ← read client
  changeConnection client (·.abandon left.isSome)

/-- The connection of a client waits or is being served. -/
def holds (host : Host σ) (client : String) : Bool :=
  (host.clients.lookup client).any fun number =>
    host.servers.any fun (_, hosted) =>
      match hosted.phase with
      | .bound server => server.waiting.any (·.number = number)
      | .running server => server.pool.holds number
      | .gone _ => false

/-- Ask the workers of a server to end. -/
def requestShutdown (name : String) : StateM (Host σ) Unit :=
  modify fun host =>
    match host.server? name with
    | some hosted =>
      match hosted.phase with
      | .running server =>
        host.putServer name { hosted with phase := .running server.requestShutdown }
      | _ => host
    | none => host

/-- Wait for the workers of a server, which is gone afterwards. -/
def join (name : String) : StateM (Host σ) (Except ServerError Unit) := do
  settle name
  let host ← get
  match host.server? name with
  | some hosted =>
    match hosted.phase with
    | .running server =>
      set (host.putServer name { hosted with phase := .gone server.counters })
      match server.joined with
      | .ok events => note events; return .ok ()
      | .error error => return .error error
    | _ => return .ok ()
  | none => return .ok ()

/-- Ask the workers of a server to end and wait for them. -/
def stop (name : String) : StateM (Host σ) (Except ServerError Unit) := do
  requestShutdown name
  join name

/-- A server goes away. The workers of a server that runs end first. -/
def drop (name : String) : StateM (Host σ) Unit := do
  let host ← get
  match host.server? name with
  | some hosted =>
    match hosted.phase with
    | .bound server =>
      let (files, events) := server.drop host.files
      set { host.putServer name { hosted with phase := .gone {} } with files }
      note events
    | .running _ =>
      requestShutdown name
      settle name
      let host ← get
      let counters := (host.server? name).elim {} (·.counters)
      set (host.putServer name { hosted with phase := .gone counters })
    | .gone _ => return ()
  | none => return ()

/-- Bind a server under a name; a server that had the name goes away. -/
def bind (name : String) (settings : ServerSettings) (provider : Provider σ) (state : σ) :
    StateM (Host σ) (Except ServerError Unit) := do
  let host ← get
  let (files, outcome) := BoundServer.bind settings host.files
  set { host with files }
  note outcome.log
  match outcome.probed with
  | none => pure ()
  | some socket =>
    let number ← nextNumber
    deliver socket { number }
  match outcome.result with
  | .error error => return .error error
  | .ok server =>
    drop name
    modify (·.putServer name { provider, state, socket := settings.socket, phase := .bound server })
    return .ok ()

/-- Start the workers of a server, which do nothing yet. A server whose workers cannot all be
started is gone. -/
def spawn (name : String) (faults : SpawnFaults) : StateM (Host σ) (Except ServerError Unit) := do
  let host ← get
  match host.server? name with
  | some hosted =>
    match hosted.phase with
    | .bound server =>
      let ((files, outcome), state) :=
        (server.start faults hosted.provider host.files).run hosted.state
      let phase := match outcome.result with
        | .ok () => .running outcome.server
        | .error _ => .gone outcome.server.counters
      set ({ host.putServer name { hosted with state, phase } with files }.observe outcome.turns)
      note outcome.log
      return outcome.result
    | _ => return .ok ()
  | none => return .ok ()

/-- Start the workers of a server, which go on then. -/
def startWith (name : String) (faults : SpawnFaults) :
    StateM (Host σ) (Except ServerError Unit) := do
  let result ← spawn name faults
  settle name
  return result

/-- Start the workers of a server on a host that has threads for all of them. -/
def start (name : String) : StateM (Host σ) Unit := do
  let _ ← startWith name fun _ => none

/-- A client connects to a path, writes some bytes, stops writing and reads all that it is sent.
There is no answer if it cannot connect or if it is sent nothing. -/
def exchange (client path : String) (bytes : Bytes) : StateM (Host σ) (Option Bytes) := do
  match ← connect client path with
  | .error _ => return none
  | .ok () =>
    write client bytes
    finish client
    read client

/-- The file at a path is removed, unless that fails. -/
def removeFile (path : String) : StateM (Host σ) Bool :=
  modifyGet fun host =>
    match host.files.remove path with
    | .ok files => (true, { host with files })
    | .error _ => (false, host)

end Host

end ThresholdDaemon
