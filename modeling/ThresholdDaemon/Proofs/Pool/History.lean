import Mathlib.Data.List.Nodup
import Mathlib.Logic.Function.Basic
import ThresholdDaemon.Proofs.Process.Settling

/-!
# What happens to the workers of a server

Clients connect, write, stop and go away, a shutdown is asked for, attempts to take a connection meet
faults, the workers take their steps, and somebody joins them, all in any order and with any state of
the provider at each step of a worker. What the workers have done is kept as the history of the pool,
which no act looks at. Each connection is numbered by how many came before it. Along every history a
connection that is not waiting any more has been taken once, in the order of arrival, and is with the
worker that has taken it until its session is over, unless it is lost because setting it up has
failed.
-/
namespace ThresholdDaemon

variable {σ : Type}

/-- What a peer does to its connection. -/
inductive PeerAct where
  /-- It writes some bytes. -/
  | writes (bytes : Bytes)
  /-- It stops writing. -/
  | finishes
  /-- It stops reading. -/
  | deafens
  /-- It goes away, perhaps with a response unread. -/
  | leaves (unread : Bool)

/-- The connection behind what a peer does. -/
def PeerAct.change : PeerAct → Connection → Connection
  | writes bytes, connection => connection.push bytes
  | finishes, connection => connection.finish
  | deafens, connection => connection.deafen
  | leaves unread, connection => connection.abandon unread

/-- No peer changes the number of its connection. -/
theorem PeerAct.number_change (act : PeerAct) (connection : Connection) :
    (act.change connection).number = connection.number := by
  cases act with
  | writes bytes =>
    simp only [change, Connection.push]
    split <;> rfl
  | finishes => rfl
  | deafens => rfl
  | leaves unread => cases unread <;> rfl

/-- What may happen to the workers of a server next. -/
inductive PoolAct (σ : Type) where
  /-- A connection arrives. -/
  | arrive (connection : Connection)
  /-- The peer of a connection does something. -/
  | peer (number : Nat) (act : PeerAct)
  /-- A shutdown is asked for. -/
  | shutdown
  /-- A later attempt to take a connection meets a fault. -/
  | hinder (fault : AcceptFault)
  /-- A worker takes its next step, with some state of the provider. -/
  | work (worker : Nat) (state : σ)
  /-- Whoever joins the workers looks after the next one. -/
  | join

namespace WorkerPool

variable {pool next : WorkerPool} {worker index : Nat} {session : Session}

/-- The pool behind what happens to it. -/
def undergo (dispatcher : Dispatcher σ) (pool : WorkerPool) : PoolAct σ → WorkerPool
  | .arrive connection => pool.arrive connection
  | .peer number act => pool.changeConnection number act.change
  | .shutdown => pool.requestShutdown
  | .hinder fault => pool.hinder fault
  | .work worker state => ((pool.step dispatcher worker).run state).1.1
  | .join => pool

/-- The session that a worker serves. -/
def sessionOf (pool : WorkerPool) (worker : Nat) : Option Session :=
  pool.workers[worker]?.bind Worker.session?

/-- A worker serves its session. -/
theorem sessionOf_eq_some : pool.sessionOf worker = some session ↔ pool.Serves worker session := by
  unfold sessionOf Serves
  cases pool.workers[worker]? with
  | none => simp
  | some found => cases found <;> simp [Worker.session?]

/-- Which connections are served. -/
theorem servedBy_eq (pool : WorkerPool) (worker : Nat) :
    pool.servedBy worker = (pool.sessionOf worker).map (·.connection.number) := rfl

/-- The same sessions are at work exactly if each worker serves the same. -/
theorem SameWork.sessionOf_eq (work : pool.SameWork next) : next.sessionOf = pool.sessionOf := by
  funext worker
  apply Option.ext
  intro session
  rw [sessionOf_eq_some, sessionOf_eq_some]
  exact work worker session

/-- A session once it has another connection. -/
def reconnect (number : Nat) (change : Connection → Connection) (session : Session) : Session :=
  { session with
    connection :=
      if session.connection.number = number then change session.connection else session.connection }

/-- The workers once the peer of a connection has done something. -/
theorem workers_changeConnection (pool : WorkerPool) (number : Nat)
    (change : Connection → Connection) (worker : Nat) :
    (pool.changeConnection number change).workers[worker]? =
      pool.workers[worker]?.map fun
        | .serving session => .serving (reconnect number change session)
        | other => other := by
  simp only [changeConnection, List.getElem?_map]
  cases pool.workers[worker]? with
  | none => rfl
  | some found => cases found <;> rfl

/-- The sessions at work once the peer of a connection has done something. -/
theorem sessionOf_changeConnection (pool : WorkerPool) (number : Nat)
    (change : Connection → Connection) (worker : Nat) :
    (pool.changeConnection number change).sessionOf worker =
      (pool.sessionOf worker).map (reconnect number change) := by
  unfold sessionOf
  rw [workers_changeConnection]
  cases pool.workers[worker]? with
  | none => rfl
  | some found => cases found <;> rfl

/-- The numbers of the connections stay, whatever their peers do. -/
theorem numbers_changeConnection (pool : WorkerPool) (number : Nat) (act : PeerAct) :
    (pool.changeConnection number act.change).waiting.map (·.number) =
        pool.waiting.map (·.number) ∧
      ∀ worker, (pool.changeConnection number act.change).servedBy worker = pool.servedBy worker := by
  have kept (connection : Connection) :
      (if connection.number = number then act.change connection else connection).number =
        connection.number := by
    split
    · exact act.number_change connection
    · rfl
  constructor
  · simp only [changeConnection, List.map_map]
    exact List.map_congr_left fun connection _ => kept connection
  · intro worker
    rw [servedBy_eq, servedBy_eq, sessionOf_changeConnection, Option.map_map]
    congr 1
    funext session
    exact kept session.connection

/-- The session that is left of another. -/
def leftOf (session : Session) : Option Session := if session.isOver then none else some session

/-- What a worker serves once its session has taken a step. -/
theorem session?_workerOf (session : Session) : (workerOf session).session? = leftOf session := by
  unfold workerOf leftOf Session.isOver
  cases session.stage <;> rfl

/-- What one step of a worker may do to the sessions of a pool. -/
inductive Works (dispatcher : Dispatcher σ) (pool : WorkerPool) (index : Nat) (state : σ)
    (next : WorkerPool) : Prop
  /-- The worker serves nothing and goes on serving nothing. It takes no connection but one that it
  loses. -/
  | idles (free : pool.sessionOf index = none) (sessions : next.sessionOf = pool.sessionOf)
      (waiting : pool.waiting = (pool.lostBy index).toList ++ next.waiting)
      (counters : next.counters = pool.counters)
  /-- The worker takes the connection that has waited longest. -/
  | takes (connection : Connection) (free : pool.sessionOf index = none)
      (kept : pool.lostBy index = none)
      (sessions : next.sessionOf =
        Function.update pool.sessionOf index (some (.accept dispatcher.frameLimit connection)))
      (waiting : pool.waiting = connection :: next.waiting)
      (counters : next.counters = pool.counters)
  /-- The session of the worker takes a step. -/
  | strides (session taken : Session) (effect : Effect)
      (stepped : ((session.step dispatcher pool.shutdown).run state).1 = (taken, effect))
      (serves : pool.sessionOf index = some session) (kept : pool.lostBy index = none)
      (sessions : next.sessionOf = Function.update pool.sessionOf index (leftOf taken))
      (waiting : next.waiting = pool.waiting)
      (counters : next.counters = pool.counters.recordAll effect.counted)

/-- The sessions of a pool once a worker is another. -/
theorem sessionOf_setWorker {before : Worker} (present : pool.workers[index]? = some before)
    (behind : Worker) :
    (pool.setWorker index behind).sessionOf =
      Function.update pool.sessionOf index behind.session? := by
  obtain ⟨valid, -⟩ := List.getElem?_eq_some_iff.mp present
  funext worker
  unfold sessionOf setWorker
  by_cases same : worker = index
  · subst same
    rw [Function.update_self, List.getElem?_set_self valid]
    rfl
  · rw [Function.update_of_ne same, List.getElem?_set_ne (Ne.symm same)]

/-- Which connections are served once a worker serves another session. -/
theorem servedBy_update {now : Option Session}
    (sessions : next.sessionOf = Function.update pool.sessionOf index now) :
    next.servedBy = Function.update pool.servedBy index (now.map (·.connection.number)) := by
  funext worker
  rw [servedBy_eq, sessions]
  by_cases same : worker = index
  · subst same
    rw [Function.update_self, Function.update_self]
  · rw [Function.update_of_ne same, Function.update_of_ne same, servedBy_eq]

/-- A session that is served once another has taken a step is what is left of that one, or it was
served before. -/
theorem sessionOf_of_leftOf {taken after : Session} {other : Nat}
    (sessions : next.sessionOf = Function.update pool.sessionOf worker (leftOf taken))
    (found : next.sessionOf other = some after) :
    other = worker ∧ after = taken ∨ other ≠ worker ∧ pool.sessionOf other = some after := by
  rw [sessions] at found
  by_cases same : other = worker
  · subst same
    rw [Function.update_self, leftOf] at found
    split at found
    · cases found
    · exact .inl ⟨rfl, (Option.some.inj found).symm⟩
  · exact .inr ⟨same, (Function.update_of_ne same ..).symm.trans found⟩

/-- Every step of a worker is one of these. -/
theorem works_step (dispatcher : Dispatcher σ) (pool : WorkerPool) (index : Nat) (state : σ) :
    pool.Works dispatcher index state ((pool.step dispatcher index).run state).1.1 := by
  rcases step_cases dispatcher index pool state with
    ⟨next, log, stepped, free, work, waiting, counters, -, -⟩ |
    ⟨connection, last, log, stepped, accepting, kept, waits⟩ | ⟨session, serves, kept, stepped⟩
  · rw [stepped]
    exact .idles (Option.map_eq_none_iff.mp free) work.sessionOf_eq waiting counters
  · rw [stepped]
    obtain ⟨workers, counters, -⟩ := pool.accept_frame
    have free : pool.sessionOf index = none := by
      unfold sessionOf
      rw [accepting]
      rfl
    have same : pool.accept.2.sessionOf = pool.sessionOf := by
      unfold sessionOf
      rw [workers]
    refine .takes connection free kept ?_ waits counters
    rw [← same]
    exact sessionOf_setWorker (workers ▸ accepting) _
  · rw [stepped]
    refine .strides session _ _ rfl (sessionOf_eq_some.mpr serves) kept ?_ rfl rfl
    rw [← session?_workerOf]
    exact sessionOf_setWorker serves _

/-- A worker that loses a connection uses up a fault. -/
theorem losses_step (dispatcher : Dispatcher σ) (pool : WorkerPool) (index : Nat) (state : σ) :
    (pool.lostBy index).toList.length +
        AcceptFault.losses ((pool.step dispatcher index).run state).1.1.faults ≤
      AcceptFault.losses pool.faults := by
  rcases step_cases dispatcher index pool state with
    ⟨next, log, stepped, -, -, -, -, -, fewer⟩ | ⟨connection, last, log, stepped, accepting, -, -⟩ |
    ⟨session, -, kept, stepped⟩
  · rw [stepped]
    exact fewer
  · rw [stepped]
    have lost : pool.lostBy index = pool.accept.1.lost? := by
      unfold lostBy
      rw [accepting]
    rw [lost]
    exact pool.losses_accept
  · rw [stepped, kept]
    exact Nat.le_of_eq (Nat.zero_add _)

end WorkerPool

/-- A step that a worker of a pool has taken. -/
structure Move (σ : Type) where
  /-- The worker. -/
  worker : Nat
  /-- A shutdown had been asked for. -/
  asked : Bool
  /-- What the worker was about to do. -/
  before : Option Worker
  /-- The state of the provider. -/
  state : σ
  /-- What the worker was about to do then. -/
  after : Option Worker
  /-- The connection that the worker has taken and lost. -/
  lost : Option Nat

namespace Move

/-- The session that the worker was serving. -/
def served (move : Move σ) : Option Session := move.before.bind Worker.session?

/-- The session that the worker was serving then. -/
def left (move : Move σ) : Option Session := move.after.bind Worker.session?

/-- The connection that the worker has taken. -/
def taken? (move : Move σ) : Option (Nat × Nat) :=
  match move.served, move.left with
  | none, some session => some (move.worker, session.connection.number)
  | none, none => move.lost.map (move.worker, ·)
  | some _, _ => none

/-- The connection whose session the worker has begun. -/
def handed? (move : Move σ) : Option (Nat × Nat) :=
  match move.served with
  | some session =>
    if session.stage = .accepted then some (move.worker, session.connection.number) else none
  | none => none

/-- The connection whose session has come to its end. -/
def finished? (move : Move σ) : Option Nat :=
  match move.served, move.left with
  | some session, none => some session.connection.number
  | _, _ => none

end Move

/-- Somebody who joins the workers of a pool, one after the other. -/
structure Joining where
  /-- How many workers have been joined. -/
  joined : Nat := 0
  /-- One of them had unwound. -/
  panicked : Bool := false

namespace Joining

/-- The next worker is joined if it is over. -/
def look (joining : Joining) (pool : WorkerPool) : Joining :=
  match pool.workers[joining.joined]? with
  | some worker =>
    if worker.isOver then ⟨joining.joined + 1, joining.panicked || worker.isUnwound⟩ else joining
  | none => joining

/-- What joining comes to once all workers have been joined. -/
def result? (joining : Joining) (pool : WorkerPool) : Option (Except ListenerError Unit) :=
  if joining.joined = pool.workers.length then
    some (if joining.panicked then .error .threadPanic else .ok ())
  else none

end Joining

/-- A pool and what has happened to it. -/
structure PoolHistory (σ : Type) where
  /-- The pool. -/
  pool : WorkerPool
  /-- How many connections have arrived. -/
  arrivals : Nat := 0
  /-- What the workers have done. -/
  moves : List (Move σ) := []
  /-- How far joining the workers has come. -/
  joining : Joining := {}
  /-- What attempts to take a connection meet, all of it since the start. -/
  faults : List AcceptFault := []

namespace PoolHistory

variable {history : PoolHistory σ} {worker number : Nat}

/-- A pool of so many workers to which nothing has happened. -/
def start (count : Nat) : PoolHistory σ := { pool := .start count }

/-- Something happens to the pool. -/
def step (dispatcher : Dispatcher σ) (history : PoolHistory σ) : PoolAct σ → PoolHistory σ
  | .arrive connection =>
    let numbered := { connection with number := history.arrivals }
    { history with
      pool := history.pool.undergo dispatcher (.arrive numbered)
      arrivals := history.arrivals + 1 }
  | .work worker state =>
    let pool := history.pool.undergo dispatcher (.work worker state)
    { history with
      pool
      moves := history.moves ++ [⟨worker, history.pool.shutdown, history.pool.workers[worker]?, state,
        pool.workers[worker]?, (history.pool.lostBy worker).map (·.number)⟩] }
  | .hinder fault =>
    { history with
      pool := history.pool.undergo dispatcher (.hinder fault)
      faults := history.faults ++ [fault] }
  | .join => { history with joining := history.joining.look history.pool }
  | act => { history with pool := history.pool.undergo dispatcher act }

/-- Several things happen in order. -/
def run (dispatcher : Dispatcher σ) (history : PoolHistory σ) (acts : List (PoolAct σ)) :
    PoolHistory σ := acts.foldl (step dispatcher) history

/-- Which worker has taken which connection, in order. -/
def taken (history : PoolHistory σ) : List (Nat × Nat) := history.moves.filterMap Move.taken?

/-- Which worker has begun the session of which connection, in order. -/
def handed (history : PoolHistory σ) : List (Nat × Nat) := history.moves.filterMap Move.handed?

/-- The connections whose sessions have come to their ends, in order. -/
def finished (history : PoolHistory σ) : List Nat := history.moves.filterMap Move.finished?

/-- The connections that have been taken and lost, in order. -/
def lost (history : PoolHistory σ) : List Nat := history.moves.filterMap Move.lost

/-- A connection is done with: its session has come to its end, or it is lost. -/
def IsDone (history : PoolHistory σ) (number : Nat) : Prop :=
  number ∈ history.finished ∨ number ∈ history.lost

/-- The step that a worker is about to take. -/
def move (dispatcher : Dispatcher σ) (history : PoolHistory σ) (worker : Nat) (state : σ) :
    Move σ where
  worker
  asked := history.pool.shutdown
  before := history.pool.workers[worker]?
  state
  after := (history.pool.undergo dispatcher (.work worker state)).workers[worker]?
  lost := (history.pool.lostBy worker).map (·.number)

/-- What has been taken, begun, finished and lost once a worker has taken a step. -/
theorem lists_work (dispatcher : Dispatcher σ) (history : PoolHistory σ) (worker : Nat) (state : σ) :
    let next := history.step dispatcher (.work worker state)
    let move := history.move dispatcher worker state
    next.taken = history.taken ++ move.taken?.toList ∧
      next.handed = history.handed ++ move.handed?.toList ∧
      next.finished = history.finished ++ move.finished?.toList ∧
      next.lost = history.lost ++ move.lost.toList := by
  have snoc {α : Type} (pick : Move σ → Option α) (move : Move σ) :
      (history.moves ++ [move]).filterMap pick =
        history.moves.filterMap pick ++ (pick move).toList := by
    rw [List.filterMap_append, List.filterMap_cons, List.filterMap_nil]
    cases pick move <;> rfl
  exact ⟨snoc Move.taken? _, snoc Move.handed? _, snoc Move.finished? _, snoc Move.lost _⟩

/-- A worker that serves nothing begins and finishes nothing, and has taken what it serves then or
has lost. -/
theorem lists_of_free (dispatcher : Dispatcher σ) (free : history.pool.sessionOf worker = none)
    (state : σ) :
    let next := history.step dispatcher (.work worker state)
    let lost := (history.pool.lostBy worker).map (·.number)
    next.taken = history.taken ++
        (((next.pool.sessionOf worker).map (·.connection.number)).or lost).toList.map (worker, ·) ∧
      next.handed = history.handed ∧ next.finished = history.finished ∧
      next.lost = history.lost ++ lost.toList := by
  obtain ⟨taken, handed, finished, lost⟩ := lists_work dispatcher history worker state
  have served : (history.move dispatcher worker state).served = none := free
  refine ⟨taken.trans ?_, handed.trans ?_, finished.trans ?_, lost⟩
  · have left : (history.move dispatcher worker state).left =
        (history.step dispatcher (.work worker state)).pool.sessionOf worker := rfl
    have gone : (history.move dispatcher worker state).lost =
        (history.pool.lostBy worker).map (·.number) := rfl
    rw [Move.taken?, served, ← left, gone]
    cases (history.move dispatcher worker state).left with
    | some session => rfl
    | none => cases history.pool.lostBy worker <;> rfl
  · rw [Move.handed?, served]
    exact List.append_nil _
  · rw [Move.finished?, served]
    exact List.append_nil _

/-- A worker that serves a session takes no other, begins it if it has not begun, and finishes it if
nothing is left of it. -/
theorem lists_of_serves (dispatcher : Dispatcher σ) {session : Session}
    (serves : history.pool.sessionOf worker = some session)
    (kept : history.pool.lostBy worker = none) (state : σ) :
    let next := history.step dispatcher (.work worker state)
    next.taken = history.taken ∧
      next.handed = history.handed ++
        (if session.stage = .accepted then [(worker, session.connection.number)] else []) ∧
      next.finished = history.finished ++
        (if (next.pool.sessionOf worker).isNone then [session.connection.number] else []) ∧
      next.lost = history.lost := by
  obtain ⟨taken, handed, finished, lost⟩ := lists_work dispatcher history worker state
  have served : (history.move dispatcher worker state).served = some session := serves
  refine ⟨taken.trans ?_, handed.trans ?_, finished.trans ?_, lost.trans ?_⟩
  · rw [Move.taken?, served]
    exact List.append_nil _
  · rw [Move.handed?, served]
    by_cases begins : session.stage = .accepted
    · simp only [if_pos begins]
      rfl
    · simp only [if_neg begins]
      rfl
  · have left : (history.move dispatcher worker state).left =
        (history.step dispatcher (.work worker state)).pool.sessionOf worker := rfl
    rw [Move.finished?, served, ← left]
    cases (history.move dispatcher worker state).left <;> rfl
  · show history.lost ++ ((history.pool.lostBy worker).map _).toList = history.lost
    rw [kept]
    exact List.append_nil _

/-- What every act keeps is so along every history. -/
theorem run_keeps {dispatcher : Dispatcher σ} {keeps : PoolHistory σ → Prop}
    (step : ∀ history act, keeps history → keeps (history.step dispatcher act))
    (start : keeps history) (acts : List (PoolAct σ)) : keeps (history.run dispatcher acts) := by
  induction acts generalizing history with
  | nil => exact start
  | cons act acts ih => exact ih (step history act start)

/-- Connections are taken once and in order, and stay with their workers until they are done with. -/
structure Sound (history : PoolHistory σ) : Prop where
  /-- The connections that do not wait any more have been taken in the order of their arrival. -/
  ordered : history.taken.map Prod.snd ++ history.pool.waiting.map (·.number) =
    List.range history.arrivals
  /-- A connection that is served has been taken by that worker and is not done with. -/
  working : ∀ worker number, history.pool.servedBy worker = some number →
    (worker, number) ∈ history.taken ∧ ¬ history.IsDone number
  /-- A connection that has been taken is served by that worker or done with. -/
  placed : ∀ worker number, (worker, number) ∈ history.taken →
    history.pool.servedBy worker = some number ∨ history.IsDone number
  /-- A connection that is done with has been taken. -/
  ended : ∀ number, history.IsDone number → number ∈ history.taken.map Prod.snd
  /-- The session of a connection that is lost does not come to an end. -/
  apart : ∀ number ∈ history.finished, number ∉ history.lost

namespace Sound

/-- No connection is taken twice. -/
theorem nodup (sound : history.Sound) : (history.taken.map Prod.snd).Nodup := by
  have all := List.nodup_range (n := history.arrivals)
  rw [← sound.ordered] at all
  exact (List.nodup_append.mp all).1

/-- A connection is served by one worker only. -/
theorem once (sound : history.Sound) {other : Nat}
    (serves : history.pool.servedBy worker = some number)
    (also : history.pool.servedBy other = some number) : worker = other := by
  have first := (sound.working worker number serves).1
  have second := (sound.working other number also).1
  exact congrArg Prod.fst (List.inj_on_of_nodup_map sound.nodup first second rfl)

/-- A connection that waits has not been taken. -/
theorem not_taken (sound : history.Sound) {connection : Connection}
    (waits : connection ∈ history.pool.waiting) :
    connection.number ∉ history.taken.map Prod.snd := by
  have all := List.nodup_range (n := history.arrivals)
  rw [← sound.ordered] at all
  intro member
  exact (List.nodup_append.mp all).2.2 _ member _ (List.mem_map_of_mem waits) rfl

/-- A connection that waits is not done with. -/
theorem not_isDone (sound : history.Sound) {connection : Connection}
    (waits : connection ∈ history.pool.waiting) : ¬ history.IsDone connection.number :=
  fun done => sound.not_taken waits (sound.ended _ done)

/-- The connections stay in order when the first that waits is taken. -/
theorem ordered_of_takes (sound : history.Sound) {next : PoolHistory σ} {connection : Connection}
    (waiting : history.pool.waiting = connection :: next.pool.waiting)
    (taken : next.taken = history.taken ++ [(worker, connection.number)])
    (arrivals : next.arrivals = history.arrivals) :
    next.taken.map Prod.snd ++ next.pool.waiting.map (·.number) = List.range next.arrivals := by
  have before := sound.ordered
  rw [waiting] at before
  rw [taken, arrivals, ← before]
  simp

/-- Nothing has been taken of a pool to which nothing has happened. -/
theorem start (count : Nat) : (PoolHistory.start count : PoolHistory σ).Sound where
  ordered := rfl
  working worker number serves := by
    obtain ⟨session, found, -⟩ := Option.map_eq_some_iff.mp serves
    have same := List.eq_of_mem_replicate
      (List.mem_of_getElem? (WorkerPool.sessionOf_eq_some.mp found))
    cases same
  placed worker number member := nomatch member
  ended number done := by rcases done with ending | lost <;> contradiction
  apart number member := nomatch member

/-- What leaves the connections where they are keeps a history sound. -/
theorem keep (sound : history.Sound) {next : PoolHistory σ} (taken : next.taken = history.taken)
    (finished : next.finished = history.finished) (lost : next.lost = history.lost)
    (arrivals : next.arrivals = history.arrivals)
    (waiting : next.pool.waiting.map (·.number) = history.pool.waiting.map (·.number))
    (serves : ∀ worker, next.pool.servedBy worker = history.pool.servedBy worker) :
    next.Sound := by
  have done (number : Nat) : next.IsDone number ↔ history.IsDone number := by
    rw [IsDone, finished, lost, IsDone]
  constructor
  case ordered =>
    rw [taken, waiting, arrivals]
    exact sound.ordered
  case working =>
    intro worker number served
    rw [taken, done]
    exact sound.working worker number ((serves worker).symm.trans served)
  case placed =>
    intro worker number member
    rw [serves, done]
    exact sound.placed worker number (taken ▸ member)
  case ended =>
    intro number ending
    rw [taken]
    exact sound.ended number ((done number).mp ending)
  case apart =>
    rw [finished, lost]
    exact sound.apart

/-- A worker that takes the next connection to serve it keeps a history sound. -/
theorem take (sound : history.Sound) {next : PoolHistory σ} {connection : Connection}
    (free : history.pool.servedBy worker = none)
    (serves : next.pool.servedBy =
      Function.update history.pool.servedBy worker (some connection.number))
    (waiting : history.pool.waiting = connection :: next.pool.waiting)
    (taken : next.taken = history.taken ++ [(worker, connection.number)])
    (finished : next.finished = history.finished) (lost : next.lost = history.lost)
    (arrivals : next.arrivals = history.arrivals) : next.Sound := by
  have done (number : Nat) : next.IsDone number ↔ history.IsDone number := by
    rw [IsDone, finished, lost, IsDone]
  constructor
  case ordered => exact sound.ordered_of_takes waiting taken arrivals
  case working =>
    intro other number served
    rw [serves] at served
    rw [taken, done]
    by_cases same : other = worker
    · subst same
      rw [Function.update_self] at served
      obtain rfl := Option.some.inj served
      exact ⟨by simp, sound.not_isDone (waiting ▸ List.mem_cons_self)⟩
    · rw [Function.update_of_ne same] at served
      obtain ⟨member, going⟩ := sound.working other number served
      exact ⟨List.mem_append_left _ member, going⟩
  case placed =>
    intro other number member
    rw [serves, done]
    rw [taken] at member
    rcases List.mem_append.mp member with before | now
    · rcases sound.placed other number before with served | ending
      · have apart : other ≠ worker := by
          rintro rfl
          cases free.symm.trans served
        exact .inl ((Function.update_of_ne apart _ _).trans served)
      · exact .inr ending
    · obtain ⟨rfl, rfl⟩ := Prod.mk.inj (List.mem_singleton.mp now)
      exact .inl (Function.update_self ..)
  case ended =>
    intro number ending
    rw [taken, List.map_append]
    exact List.mem_append_left _ (sound.ended number ((done number).mp ending))
  case apart =>
    rw [finished, lost]
    exact sound.apart

/-- A worker that takes the next connection and loses it keeps a history sound. -/
theorem lose (sound : history.Sound) {next : PoolHistory σ} {connection : Connection}
    (serves : ∀ worker, next.pool.servedBy worker = history.pool.servedBy worker)
    (waiting : history.pool.waiting = connection :: next.pool.waiting)
    (taken : next.taken = history.taken ++ [(worker, connection.number)])
    (finished : next.finished = history.finished)
    (lost : next.lost = history.lost ++ [connection.number])
    (arrivals : next.arrivals = history.arrivals) : next.Sound := by
  have waits : connection ∈ history.pool.waiting := waiting ▸ List.mem_cons_self
  have done (number : Nat) :
      next.IsDone number ↔ history.IsDone number ∨ number = connection.number := by
    rw [IsDone, finished, lost, List.mem_append, List.mem_singleton, IsDone, or_assoc]
  constructor
  case ordered => exact sound.ordered_of_takes waiting taken arrivals
  case working =>
    intro other number served
    obtain ⟨member, going⟩ := sound.working other number ((serves other).symm.trans served)
    rw [taken, done]
    refine ⟨List.mem_append_left _ member, ?_⟩
    rintro (before | rfl)
    · exact going before
    · exact sound.not_taken waits (List.mem_map_of_mem member)
  case placed =>
    intro other number member
    rw [serves, done, ← or_assoc]
    rw [taken] at member
    rcases List.mem_append.mp member with before | now
    · exact .inl (sound.placed other number before)
    · exact .inr (congrArg Prod.snd (List.mem_singleton.mp now))
  case ended =>
    intro number ending
    rw [taken, List.map_append]
    rcases (done number).mp ending with before | rfl
    · exact List.mem_append_left _ (sound.ended number before)
    · exact List.mem_append_right _ (List.mem_singleton_self _)
  case apart =>
    intro number ending gone
    rw [finished] at ending
    rw [lost] at gone
    rcases List.mem_append.mp gone with before | now
    · exact sound.apart number ending before
    · rw [List.mem_singleton.mp now] at ending
      exact sound.not_isDone waits (.inl ending)

/-- A session that ends keeps a history sound. -/
theorem finish (sound : history.Sound) {next : PoolHistory σ}
    (serving : history.pool.servedBy worker = some number)
    (serves : next.pool.servedBy = Function.update history.pool.servedBy worker none)
    (waiting : next.pool.waiting = history.pool.waiting) (taken : next.taken = history.taken)
    (finished : next.finished = history.finished ++ [number]) (lost : next.lost = history.lost)
    (arrivals : next.arrivals = history.arrivals) : next.Sound := by
  have done (another : Nat) :
      next.IsDone another ↔ history.IsDone another ∨ another = number := by
    rw [IsDone, finished, lost, List.mem_append, List.mem_singleton, IsDone, or_right_comm]
  constructor
  case ordered =>
    rw [taken, waiting, arrivals]
    exact sound.ordered
  case working =>
    intro other another served
    rw [serves] at served
    by_cases same : other = worker
    · subst same
      rw [Function.update_self] at served
      cases served
    · rw [Function.update_of_ne same] at served
      obtain ⟨member, going⟩ := sound.working other another served
      rw [taken, done]
      refine ⟨member, ?_⟩
      rintro (before | rfl)
      · exact going before
      · exact same (sound.once served serving)
  case placed =>
    intro other another member
    rw [taken] at member
    rw [serves, done]
    rcases sound.placed other another member with served | ending
    · by_cases same : other = worker
      · subst same
        exact .inr (.inr (Option.some.inj (served.symm.trans serving)))
      · exact .inl ((Function.update_of_ne same _ _).trans served)
    · exact .inr (.inl ending)
  case ended =>
    intro another ending
    rw [taken]
    rcases (done another).mp ending with before | rfl
    · exact sound.ended another before
    · exact List.mem_map_of_mem (sound.working worker another serving).1
  case apart =>
    intro another ending
    rw [finished] at ending
    rw [lost]
    rcases List.mem_append.mp ending with before | now
    · exact sound.apart another before
    · rw [List.mem_singleton.mp now]
      exact fun gone => (sound.working worker number serving).2 (.inr gone)

/-- A step of a worker keeps a history sound. -/
theorem work (sound : history.Sound) (dispatcher : Dispatcher σ) (worker : Nat) (state : σ) :
    (history.step dispatcher (.work worker state)).Sound := by
  cases history.pool.works_step dispatcher worker state with
  | idles free sessions waiting counters =>
    obtain ⟨taken, -, finished, lost⟩ := lists_of_free dispatcher free state
    have gone : (history.step dispatcher (.work worker state)).pool.sessionOf worker = none :=
      (congrFun sessions worker).trans free
    have serves (other : Nat) :
        (history.step dispatcher (.work worker state)).pool.servedBy other =
          history.pool.servedBy other := congrArg (Option.map _) (congrFun sessions other)
    rw [gone] at taken
    cases losing : history.pool.lostBy worker with
    | none =>
      rw [losing] at taken lost waiting
      exact sound.keep (taken.trans (List.append_nil _)) finished (lost.trans (List.append_nil _))
        rfl (congrArg (List.map _) waiting.symm) serves
    | some connection =>
      rw [losing] at taken lost waiting
      exact sound.lose serves waiting taken finished lost rfl
  | takes connection free kept sessions waiting counters =>
    obtain ⟨taken, -, finished, lost⟩ := lists_of_free dispatcher free state
    have now : (history.step dispatcher (.work worker state)).pool.sessionOf worker =
        some (.accept dispatcher.frameLimit connection) :=
      (congrFun sessions worker).trans (Function.update_self ..)
    rw [now] at taken
    rw [kept] at lost
    exact sound.take (congrArg (Option.map _) free) (WorkerPool.servedBy_update sessions) waiting
      taken finished (lost.trans (List.append_nil _)) rfl
  | strides session next effect stepped serves kept sessions waiting counters =>
    obtain ⟨taken, -, finished, lost⟩ := lists_of_serves dispatcher serves kept state
    have left : (history.step dispatcher (.work worker state)).pool.sessionOf worker =
        WorkerPool.leftOf next := (congrFun sessions worker).trans (Function.update_self ..)
    have serving : history.pool.servedBy worker = some session.connection.number :=
      congrArg (Option.map _) serves
    have number : next.connection.number = session.connection.number := by
      have kept := session.step_number dispatcher history.pool.shutdown state
      rwa [stepped] at kept
    have now := WorkerPool.servedBy_update sessions
    rw [left] at finished
    cases ending : next.isOver with
    | true =>
      rw [WorkerPool.leftOf, if_pos ending] at finished now
      exact sound.finish serving now waiting taken finished lost rfl
    | false =>
      rw [WorkerPool.leftOf, if_neg (by simp [ending])] at finished now
      refine sound.keep taken (finished.trans (List.append_nil _)) lost rfl
        (congrArg (List.map _) waiting) fun other => ?_
      refine (congrFun now other).trans ?_
      rw [Option.map_some, number, ← serving, Function.update_eq_self]

/-- Every act keeps a history sound. -/
theorem step (sound : history.Sound) (dispatcher : Dispatcher σ) (act : PoolAct σ) :
    (history.step dispatcher act).Sound := by
  cases act with
  | arrive connection =>
    refine ⟨?_, sound.working, sound.placed, sound.ended, sound.apart⟩
    show history.taken.map Prod.snd ++ (history.pool.waiting ++ [_]).map Connection.number =
      List.range (history.arrivals + 1)
    rw [List.map_append, ← List.append_assoc, sound.ordered, List.range_succ]
    rfl
  | peer number act =>
    obtain ⟨waiting, serves⟩ := history.pool.numbers_changeConnection number act
    exact sound.keep rfl rfl rfl rfl waiting serves
  | shutdown => exact sound.keep rfl rfl rfl rfl rfl fun _ => rfl
  | hinder fault => exact sound.keep rfl rfl rfl rfl rfl fun _ => rfl
  | work worker state => exact sound.work dispatcher worker state
  | join => exact sound.keep rfl rfl rfl rfl rfl fun _ => rfl

end Sound

/-- The connections that are lost and the faults that are still to come are among the faults so
far. -/
theorem losses_step {dispatcher : Dispatcher σ} (act : PoolAct σ)
    (fewer : history.lost.length + AcceptFault.losses history.pool.faults ≤
      AcceptFault.losses history.faults) :
    (history.step dispatcher act).lost.length +
        AcceptFault.losses (history.step dispatcher act).pool.faults ≤
      AcceptFault.losses (history.step dispatcher act).faults := by
  cases act with
  | work worker state =>
    obtain ⟨-, -, -, lost⟩ := lists_work dispatcher history worker state
    have used := history.pool.losses_step dispatcher worker state
    have own : (history.move dispatcher worker state).lost.toList.length =
        (history.pool.lostBy worker).toList.length := by
      show ((history.pool.lostBy worker).map _).toList.length = _
      cases history.pool.lostBy worker <;> rfl
    show _ + AcceptFault.losses ((history.pool.step dispatcher worker).run state).1.1.faults ≤
      AcceptFault.losses history.faults
    rw [lost, List.length_append, own]
    omega
  | hinder fault =>
    show history.lost.length + AcceptFault.losses (history.pool.faults ++ [fault]) ≤
      AcceptFault.losses (history.faults ++ [fault])
    rw [AcceptFault.losses_append, AcceptFault.losses_append]
    omega
  | _ => exact fewer

end PoolHistory

end ThresholdDaemon
