import ThresholdDaemon.Log.Record
import ThresholdDaemon.Session

/-!
# Worker pools

The workers of a server take the connections that wait, in the order of their arrival and each
exactly once, and serve them one at a time. They share the counters of the server and its shutdown
flag. A worker goes in small steps, those of its session among them, so that the workers of a pool
can take their steps in any order. A worker whose session unwinds is lost.

An attempt to take a connection may fail, before or after the connection has left the queue. The
worker then waits a little, as it does when no connection waits, and says so unless its last attempt
has failed in the same way.
-/
namespace ThresholdDaemon

/-- What a worker is about to do. Until it serves a session it remembers of what kind the last
failure to take a connection was. -/
inductive Worker where
  /-- Start. -/
  | starting
  /-- Look for a shutdown. -/
  | checking (last : Option ErrorKind := none)
  /-- Take the next connection, if one waits. -/
  | accepting (last : Option ErrorKind := none)
  /-- Wait a little. -/
  | resting (last : Option ErrorKind := none)
  /-- Go on with a session. -/
  | serving (session : Session)
  /-- Nothing. -/
  | stopped
  /-- Nothing, because of a panic. -/
  | unwound (text : String)
  deriving DecidableEq, Repr

namespace Worker

/-- The worker does nothing any more. -/
def isOver : Worker → Bool
  | stopped | unwound _ => true
  | _ => false

/-- The worker has unwound. -/
def isUnwound : Worker → Bool
  | unwound _ => true
  | _ => false

/-- The session of a worker. -/
def session? : Worker → Option Session
  | serving session => some session
  | _ => none

/-- The worker is about to take a connection. -/
def isAccepting : Worker → Bool
  | accepting _ => true
  | _ => false

end Worker

/-- What an attempt to take a connection meets. -/
inductive AcceptFault where
  /-- The call for a connection fails. -/
  | call (error : SystemError)
  /-- A connection is taken, but its calls cannot be made to block. -/
  | setUp (error : SystemError)
  deriving DecidableEq, Repr

/-- What an attempt to take a connection comes to. -/
inductive Accepted where
  /-- No connection waits. -/
  | nothing
  /-- A connection is there to be served. -/
  | connection (connection : Connection)
  /-- It has failed; a connection that had been taken is lost. -/
  | failed (error : SystemError) (lost : Option Connection)

/-- The workers of a server and what they share. -/
structure WorkerPool where
  /-- The workers. -/
  workers : List Worker
  /-- The connections that wait, the first to arrive in front. -/
  waiting : List Connection := []
  /-- The counters of the server. -/
  counters : Counters := {}
  /-- A shutdown has been asked for. -/
  shutdown : Bool := false
  /-- What the next attempts to take a connection meet, one after the other. -/
  faults : List AcceptFault := []
  deriving DecidableEq, Repr

/-- What others see of some steps of one worker. -/
structure Turn where
  /-- The worker. -/
  worker : Nat
  /-- The number of the connection that it serves. -/
  connection : Option Nat := none
  /-- What others see. -/
  effect : Effect
  deriving DecidableEq, Repr

/-- The records of some turns. -/
def Turn.records (turns : List Turn) : List LogRecord :=
  turns.flatMap fun turn => (Thread.worker turn.worker).records turn.effect.log

/-- The bytes that some turns send to a connection. -/
def Turn.sentTo (number : Nat) (turns : List Turn) : Bytes :=
  (turns.filter (·.connection = some number)).flatMap (·.effect.sent)

namespace WorkerPool

variable {σ : Type}

/-- A pool of so many workers, at least one. -/
def start (count : Nat) (waiting : List Connection := []) : WorkerPool where
  workers := List.replicate (max count 1) .starting
  waiting

/-- An event of a worker. -/
def event (message : String) (index : Nat) : LogEvent :=
  LogEvent.Source.transport.event .debug message [("worker", .count index)]

/-- The event of an attempt to take a connection that has failed. -/
def failedEvent (index : Nat) (error : SystemError) : LogEvent :=
  LogEvent.Source.transport.event .warn "socket accept error"
    [("worker", .count index), ("error", .shown error.message)]

/-- Take the connection that has waited longest. Nothing to wait for is no failure of the call. -/
def accept (pool : WorkerPool) : Accepted × WorkerPool :=
  let later := { pool with faults := pool.faults.tail }
  match pool.faults.head?, pool.waiting with
  | some (.call error), _ =>
    (if error.errorKind = .wouldBlock then .nothing else .failed error none, later)
  | _, [] => (.nothing, later)
  | some (.setUp error), connection :: waiting =>
    (.failed error (some connection), { later with waiting })
  | none, connection :: waiting => (.connection connection, { later with waiting })

/-- The pool with another worker at a place. -/
def setWorker (pool : WorkerPool) (index : Nat) (worker : Worker) : WorkerPool :=
  { pool with workers := pool.workers.set index worker }

/-- What becomes of the worker of a session. -/
def workerOf (session : Session) : Worker :=
  match session.stage with
  | .ended => .checking
  | .unwound text => .unwound text
  | _ => .serving session

/-- One worker takes its next step. -/
def step (dispatcher : Dispatcher σ) (index : Nat) (pool : WorkerPool) :
    StateM σ (WorkerPool × Effect) :=
  match pool.workers[index]? with
  | some .starting =>
    pure (pool.setWorker index .checking, { log := [event "worker started" index] })
  | some (.checking last) =>
    if pool.shutdown then
      pure (pool.setWorker index .stopped, { log := [event "worker stopped" index] })
    else pure (pool.setWorker index (.accepting last), {})
  | some (.accepting last) =>
    match pool.accept with
    | (.nothing, pool) => pure (pool.setWorker index (.resting last), {})
    | (.connection connection, pool) =>
      let session := Session.accept dispatcher.frameLimit connection
      pure (pool.setWorker index (.serving session), { log := [event "connection accepted" index] })
    | (.failed error _, pool) =>
      let kind := error.errorKind
      pure (pool.setWorker index (.resting (some kind)),
        { log := if last = some kind then [] else [failedEvent index error] })
  | some (.resting last) => pure (pool.setWorker index (.checking last), {})
  | some (.serving session) => do
    let (session, effect) ← session.step dispatcher pool.shutdown
    let pool := pool.setWorker index (workerOf session)
    return ({ pool with counters := pool.counters.recordAll effect.counted }, effect)
  | some .stopped | some (.unwound _) | none => pure (pool, {})

/-- A connection arrives. -/
def arrive (pool : WorkerPool) (connection : Connection) : WorkerPool :=
  { pool with waiting := pool.waiting ++ [connection] }

/-- Ask for a shutdown. -/
def requestShutdown (pool : WorkerPool) : WorkerPool := { pool with shutdown := true }

/-- A later attempt to take a connection meets a fault. -/
def hinder (pool : WorkerPool) (fault : AcceptFault) : WorkerPool :=
  { pool with faults := pool.faults ++ [fault] }

/-- All workers are over. -/
def isOver (pool : WorkerPool) : Bool := pool.workers.all Worker.isOver

/-- Some worker has unwound. -/
def hasUnwound (pool : WorkerPool) : Bool := pool.workers.any Worker.isUnwound

/-- A worker has nothing to do until somebody else does something. -/
def rests (pool : WorkerPool) (worker : Worker) : Bool :=
  match worker with
  | .stopped | .unwound _ => true
  | .resting _ => pool.waiting.isEmpty && !pool.shutdown
  | .serving session => session.isIdle && !pool.shutdown
  | .starting | .checking _ | .accepting _ => false

/-- The number of the connection that a worker serves. -/
def servedBy (pool : WorkerPool) (index : Nat) : Option Nat :=
  (pool.workers[index]?.bind Worker.session?).map (·.connection.number)

/-- A worker goes on, for at most `fuel` steps, until it has nothing to do. -/
def advance (dispatcher : Dispatcher σ) (index : Nat) : (fuel : Nat) → WorkerPool →
    StateM σ (WorkerPool × List Turn)
  | 0, pool => pure (pool, [])
  | fuel + 1, pool =>
    match pool.workers[index]? with
    | none => pure (pool, [])
    | some worker =>
      if pool.rests worker then pure (pool, [])
      else do
        let served := pool.servedBy index
        let (pool, effect) ← pool.step dispatcher index
        let (pool, turns) ← advance dispatcher index fuel pool
        return (pool, ⟨index, served, effect⟩ :: turns)

/-- Enough steps for what a connection has sent. -/
def connectionBudget (connection : Connection) : Nat := 5 * connection.incoming.length + 9

/-- Enough steps for a worker to have nothing to do again: those for the connections, and three for
each attempt to take one that fails. -/
def budget (pool : WorkerPool) : Nat :=
  let served := (pool.workers.filterMap Worker.session?).map (·.connection)
  (served ++ pool.waiting).foldl (fun total connection => total + connectionBudget connection)
    (9 + 3 * pool.faults.length)

/-- All workers go on, one after the other, until they have nothing to do. -/
def settle (dispatcher : Dispatcher σ) (pool : WorkerPool) :
    StateM σ (WorkerPool × List Turn) :=
  (List.range pool.workers.length).foldlM (fun (pool, turns) index => do
    let (pool, more) ← pool.advance dispatcher index pool.budget
    return (pool, turns ++ more)) (pool, [])

/-- Change the connection with a number, wherever it is. -/
def changeConnection (pool : WorkerPool) (number : Nat) (change : Connection → Connection) :
    WorkerPool :=
  let changed (connection : Connection) : Connection :=
    if connection.number = number then change connection else connection
  { pool with
    waiting := pool.waiting.map changed
    workers := pool.workers.map fun worker =>
      match worker with
      | .serving session => .serving { session with connection := changed session.connection }
      | worker => worker }

/-- The connection with a number waits or is being served. -/
def holds (pool : WorkerPool) (number : Nat) : Bool :=
  pool.waiting.any (·.number = number) ||
    pool.workers.any fun worker => worker.session?.any (·.connection.number = number)

end WorkerPool

end ThresholdDaemon
