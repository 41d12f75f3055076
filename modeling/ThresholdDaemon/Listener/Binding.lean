import ThresholdDaemon.Listener

/-!
# Binding a listener

To bind a path, what is there is looked at first: anything but a socket stays, and so does a socket
that somebody listens at or that cannot be told apart. A socket that nobody listens at is removed.
Then the socket is made. Each call to the system is a step of its own, so that several bindings of
one path can take their steps in any order.
-/
namespace ThresholdDaemon

/-- The system calls that a binding makes, on a state `ω`. -/
structure SocketCalls (ω : Type) where
  /-- Something is at a path, behind all links. -/
  existsAt : String → StateM ω Bool
  /-- What is at a path itself. -/
  kindAt : String → StateM ω (Except SystemError NodeKind)
  /-- Connect to a path and close the connection. -/
  probe : String → StateM ω (Except SystemError NodeId)
  /-- Take away what is at a path. -/
  remove : String → StateM ω (Except SystemError Unit)
  /-- Make a socket at a path and listen. -/
  listen : String → StateM ω (Except SystemError NodeId)
  /-- Keep a socket from blocking. -/
  unblock : NodeId → StateM ω (Except SystemError Unit)
  /-- Close a socket. -/
  close : NodeId → StateM ω Unit

namespace FileSystem

/-- A call that may change the file system. -/
def calling {α : Type} (act : FileSystem → Except SystemError (FileSystem × α)) :
    StateM FileSystem (Except SystemError α) := fun fs =>
  match act fs with
  | .ok (fs, value) => (.ok value, fs)
  | .error error => (.error error, fs)

/-- The system calls of a binding on a file system, where keeping a socket from blocking never
fails. -/
def socketCalls : SocketCalls FileSystem where
  existsAt path := fun fs => (fs.existsAt path, fs)
  kindAt path := fun fs => (fs.kindAt path, fs)
  probe path := fun fs => (fs.connectTo path, fs)
  remove path := calling fun fs => (fs.remove path).map fun fs => (fs, ())
  listen path := calling fun fs => fs.bindSocket .listening path
  unblock _ := pure (.ok ())
  close id := fun fs => ((), fs.closeSocket id)

end FileSystem

/-- What a binding is about to do. -/
inductive Binding.Stage where
  /-- See whether something is at the path. -/
  | looking
  /-- See what is there. -/
  | inspecting
  /-- See whether somebody listens there. -/
  | probing
  /-- Remove a socket that nobody listens at. -/
  | clearing
  /-- Make the socket. -/
  | listening
  /-- Keep the socket from blocking. -/
  | unblocking (socket : NodeId)
  /-- Give the socket up. -/
  | yielding (socket : NodeId) (error : SystemError)
  /-- Nothing: the path is bound. -/
  | bound (socket : NodeId)
  /-- Nothing: the path cannot be bound. -/
  | failed (error : ListenerError)
  deriving DecidableEq, Repr

/-- An attempt to bind a path. -/
structure Binding where
  /-- The path. -/
  path : String
  /-- What it is about to do. -/
  stage : Binding.Stage := .looking
  /-- The listener that it has connected to. -/
  probed : Option NodeId := none
  deriving DecidableEq, Repr

namespace Binding

variable {ω : Type}

/-- The binding at another stage. -/
def goTo (binding : Binding) (stage : Stage) : Binding := { binding with stage }

/-- The errors of a connection attempt that tell that nobody listens. -/
def tellsStale (error : SystemError) : Bool :=
  error.errorKind = .connectionRefused || error.errorKind = .notFound

/-- The event of removing a socket that nobody listens at. -/
def removing (path : String) : LogEvent :=
  LogEvent.Source.transport.event .debug "removing stale unix socket" [("path", .shown path)]

/-- Take the next step. -/
def step (calls : SocketCalls ω) (binding : Binding) : StateM ω (Binding × List LogEvent) :=
  let path := binding.path
  match binding.stage with
  | .looking => do
    if ← calls.existsAt path then return (binding.goTo .inspecting, [])
    else return (binding.goTo .listening, [])
  | .inspecting => do
    match ← calls.kindAt path with
    | .error error => return (binding.goTo (.failed (.metadata path error)), [])
    | .ok .socket => return (binding.goTo .probing, [])
    | .ok _ => return (binding.goTo (.failed (.notSocket path)), [])
  | .probing => do
    match ← calls.probe path with
    | .ok socket =>
      return ({ binding with stage := .failed (.inUse path), probed := some socket }, [])
    | .error error =>
      if tellsStale error then return (binding.goTo .clearing, [removing path])
      else return (binding.goTo (.failed (.probe path error)), [])
  | .clearing => do
    match ← calls.remove path with
    | .error error => return (binding.goTo (.failed (.cleanup path error)), [])
    | .ok () => return (binding.goTo .listening, [])
  | .listening => do
    match ← calls.listen path with
    | .error error => return (binding.goTo (.failed (.bind path error)), [])
    | .ok socket => return (binding.goTo (.unblocking socket), [])
  | .unblocking socket => do
    match ← calls.unblock socket with
    | .error error => return (binding.goTo (.yielding socket error), [])
    | .ok () => return (binding.goTo (.bound socket), [])
  | .yielding socket error => do
    calls.close socket
    let _ ← calls.remove path
    return (binding.goTo (.failed (.nonBlocking error)), [])
  | .bound _ | .failed _ => pure (binding, [])

/-- Take a number of steps. -/
def runFor (calls : SocketCalls ω) : Nat → Binding → StateM ω (Binding × List LogEvent)
  | 0, binding => pure (binding, [])
  | steps + 1, binding => do
    let (binding, log) ← binding.step calls
    let (binding, more) ← runFor calls steps binding
    return (binding, log ++ more)

/-- The most steps that a binding takes. -/
def stepMax : Nat := 7

/-- What a binding comes to; one that is not over is taken for one that found the path in use. -/
def result (binding : Binding) : Except ListenerError Listener :=
  match binding.stage with
  | .bound socket => .ok ⟨binding.path, socket⟩
  | .failed error => .error error
  | _ => .error (.inUse binding.path)

/-- Bind a path. -/
def run (calls : SocketCalls ω) (path : String) : StateM ω (Binding × List LogEvent) :=
  runFor calls stepMax { path }

end Binding

end ThresholdDaemon
