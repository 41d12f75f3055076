import ThresholdDaemon.CommandLine.Scan
import ThresholdDaemon.Proofs.Process.Isolation
import ThresholdDaemon.Proofs.Session.Endurance
import ThresholdDaemon.Server

/-!
# Workers survive their connections

As long as the buffer for the frame limit can be allocated, no connection takes down a worker,
whatever it sends and whatever the provider does: a worker stops only for a shutdown, and it comes
back to accept the next connection once its session is over. If the buffer is larger than an
allocation may be, the first connection takes down the worker that accepts it.
-/
namespace ThresholdDaemon

variable {σ : Type}

/-- A worker has not unwound, and the session that it serves goes on. -/
def Worker.Endures (limit : Nat) : Worker → Prop
  | .serving session => session.Endures limit ∧ session.isOver = false
  | .unwound _ => False
  | _ => True

namespace WorkerPool

/-- Something happens to the workers of a server. -/
def act (dispatcher : Dispatcher σ) (pool : WorkerPool) : Act → StateM σ WorkerPool
  | .arrive connection => pure (pool.arrive connection)
  | .shutdown => pure pool.requestShutdown
  | .hinder fault => pure (pool.hinder fault)
  | .work index => do
    let (pool, _) ← pool.step dispatcher index
    return pool

/-- Several things happen in order. -/
def run (dispatcher : Dispatcher σ) : List Act → WorkerPool → StateM σ WorkerPool
  | [], pool => pure pool
  | act :: rest, pool => do run dispatcher rest (← pool.act dispatcher act)

/-- No worker has unwound, and none has stopped before a shutdown. -/
structure Endures (limit : Nat) (pool : WorkerPool) : Prop where
  /-- The workers have not unwound. -/
  workers : ∀ worker ∈ pool.workers, worker.Endures limit
  /-- A worker stops for a shutdown only. -/
  stopped : .stopped ∈ pool.workers → pool.shutdown = true

/-- A new pool has lost no worker. -/
theorem endures_start (limit count : Nat) (waiting : List Connection) :
    (start count waiting).Endures limit := by
  refine ⟨fun worker member => ?_, fun stopped => ?_⟩
  · obtain rfl := List.eq_of_mem_replicate member
    trivial
  · cases List.eq_of_mem_replicate stopped

/-- A worker that has not unwound may take the place of another. -/
theorem Endures.setWorker {limit : Nat} {pool : WorkerPool} (endures : pool.Endures limit)
    (index : Nat) {worker : Worker} (survives : worker.Endures limit)
    (stops : worker = .stopped → pool.shutdown = true) :
    (pool.setWorker index worker).Endures limit := by
  refine ⟨fun other member => ?_, fun stopped => ?_⟩
  · rcases List.mem_or_eq_of_mem_set member with before | rfl
    · exact endures.workers other before
    · exact survives
  · rcases List.mem_or_eq_of_mem_set stopped with before | rfl
    · exact endures.stopped before
    · exact stops rfl

/-- No attempt to take a connection loses a worker. -/
theorem Endures.accept {limit : Nat} {pool : WorkerPool} (endures : pool.Endures limit) :
    pool.accept.2.Endures limit := by
  obtain ⟨workers, -, shutdown⟩ := pool.accept_frame
  exact ⟨workers ▸ endures.workers, fun stopped => shutdown.trans (endures.stopped (workers ▸ stopped))⟩

/-- A session that has not unwound leaves a worker that has not either. -/
theorem endures_workerOf {limit : Nat} {session : Session} (endures : session.Endures limit) :
    (workerOf session).Endures limit ∧ workerOf session ≠ .stopped := by
  cases stage : session.stage with
  | unwound text => exact absurd stage (endures.not_unwound text)
  | ended => simp [workerOf, stage, Worker.Endures]
  | _ => simp [workerOf, stage, Worker.Endures, endures, Session.isOver]

/-- No step of a worker loses one. -/
theorem Endures.step {limit : Nat} (fits : limit < allocationMax) {pool : WorkerPool}
    (endures : pool.Endures limit) (provider : Provider σ) (index : Nat) (state : σ) :
    ((pool.step ⟨provider, limit⟩ index).run state).1.1.Endures limit := by
  unfold WorkerPool.step
  cases working : pool.workers[index]? with
  | none => exact endures
  | some worker =>
    have survives := endures.workers worker (List.mem_of_getElem? working)
    cases worker with
    | starting => exact endures.setWorker index trivial nofun
    | checking last =>
      cases shutdown : pool.shutdown with
      | true => exact endures.setWorker index trivial fun _ => shutdown
      | false => exact endures.setWorker index trivial nofun
    | accepting last =>
      have later := endures.accept
      dsimp only
      generalize pool.accept = outcome at later
      obtain ⟨accepted, next⟩ := outcome
      cases accepted with
      | nothing => exact later.setWorker index trivial nofun
      | connection connection =>
        exact later.setWorker index ⟨Session.endures_accept limit connection, rfl⟩ nofun
      | failed error lost => exact later.setWorker index trivial nofun
    | resting last => exact endures.setWorker index trivial nofun
    | serving session =>
      have returns := survives.1.step fits ⟨provider, limit⟩ pool.shutdown state
      have next := endures_workerOf returns
      have placed := endures.setWorker index next.1 fun stops => absurd stops next.2
      exact ⟨placed.workers, placed.stopped⟩
    | stopped => exact endures
    | unwound text => exact endures

/-- Nothing that happens loses a worker. -/
theorem Endures.act {limit : Nat} (fits : limit < allocationMax) {pool : WorkerPool}
    (endures : pool.Endures limit) (provider : Provider σ) (act : Act) (state : σ) :
    ((pool.act ⟨provider, limit⟩ act).run state).1.Endures limit := by
  cases act with
  | arrive connection => exact ⟨endures.workers, endures.stopped⟩
  | shutdown => exact ⟨endures.workers, fun _ => rfl⟩
  | hinder fault => exact ⟨endures.workers, endures.stopped⟩
  | work index => exact endures.step fits provider index state

/-- Whatever happens, and in whatever order, no worker is lost. -/
theorem Endures.run {limit : Nat} (fits : limit < allocationMax) (provider : Provider σ)
    (acts : List Act) {pool : WorkerPool} (endures : pool.Endures limit) (state : σ) :
    ((pool.run ⟨provider, limit⟩ acts).run state).1.Endures limit := by
  induction acts generalizing pool state with
  | nil => exact endures
  | cons act rest ih =>
    exact ih (endures.act fits provider act state) _

/-- What a worker comes to that looks for a shutdown. -/
def returned (shutdown : Bool) : Worker := if shutdown then .stopped else .accepting

/-- A worker that looks for a shutdown stops if there is one, and accepts otherwise. -/
theorem run_checking (dispatcher : Dispatcher σ) {pool : WorkerPool} {index : Nat}
    (working : pool.workers[index]? = some .checking) (state : σ) :
    ((pool.run dispatcher [.work index]).run state).1.workers[index]? =
      some (returned pool.shutdown) := by
  obtain ⟨place, -⟩ := List.getElem?_eq_some_iff.mp working
  show ((pool.step dispatcher index).run state).1.1.workers[index]? = _
  unfold step
  rw [working]
  cases shutdown : pool.shutdown <;> exact List.getElem?_set_self place

/-- A worker returns from a session of which each step leaves less to do. -/
theorem exists_returned {limit : Nat} (fits : limit < allocationMax) (provider : Provider σ)
    (index : Nat) (shutdown : Bool) (good : Session → Prop) (left : Session → Nat)
    (falls : ∀ (session : Session) (state : σ), session.Endures limit → good session →
      session.isOver = false →
      good ((session.step ⟨provider, limit⟩ shutdown).run state).1.1 ∧
        left ((session.step ⟨provider, limit⟩ shutdown).run state).1.1 < left session) :
    ∀ (bound : Nat) (pool : WorkerPool) (session : Session) (state : σ),
      pool.Serves index session → pool.shutdown = shutdown → session.Endures limit →
      session.isOver = false → good session → left session < bound →
      ∃ count,
        ((pool.run ⟨provider, limit⟩ (List.replicate count (.work index))).run
          state).1.workers[index]? = some (returned shutdown) := by
  intro bound
  induction bound with
  | zero => exact fun _ session _ _ _ _ _ _ less => absurd less (Nat.not_lt_zero _)
  | succ bound ih =>
    intro pool session state serves asked endures goes_on fine less
    obtain ⟨place, -⟩ := List.getElem?_eq_some_iff.mp serves
    obtain ⟨good_next, left_next⟩ := falls session state endures fine goes_on
    have returns := endures.step fits ⟨provider, limit⟩ shutdown state
    let taken := (session.step ⟨provider, limit⟩ shutdown).run state
    let next : WorkerPool := { pool.setWorker index (workerOf taken.1.1) with
      counters := pool.counters.recordAll taken.1.2.counted }
    have stepped : (pool.step ⟨provider, limit⟩ index).run state = ((next, taken.1.2), taken.2) := by
      unfold step
      rw [serves]
      subst asked
      rfl
    have placed : next.workers[index]? = some (workerOf taken.1.1) := List.getElem?_set_self place
    cases finished : taken.1.1.isOver with
    | true =>
      -- The session has ended, so the worker looks for a shutdown in its next step.
      have checks : workerOf taken.1.1 = .checking := by
        unfold Session.isOver at finished
        unfold workerOf
        cases stage : taken.1.1.stage with
        | ended => rfl
        | unwound text => exact absurd stage (returns.not_unwound text)
        | _ => simp [stage] at finished
      rw [checks] at placed
      refine ⟨2, ?_⟩
      have last := run_checking ⟨provider, limit⟩ placed taken.2
      show ((((pool.step ⟨provider, limit⟩ index).run state).1.1.run ⟨provider, limit⟩
        [.work index]).run ((pool.step ⟨provider, limit⟩ index).run state).2).1.workers[index]? = _
      rw [stepped]
      exact last.trans (congrArg (some ∘ returned) asked)
    | false =>
      have serves_next : next.Serves index taken.1.1 := by
        rw [workerOf_eq_serving.mpr ⟨rfl, finished⟩] at placed
        exact placed
      obtain ⟨count, reached⟩ := ih next taken.1.1 taken.2 serves_next asked returns finished good_next
        (Nat.lt_of_lt_of_le left_next (Nat.le_of_lt_succ less))
      refine ⟨count + 1, ?_⟩
      show ((((pool.step ⟨provider, limit⟩ index).run state).1.1.run ⟨provider, limit⟩
        (List.replicate count (.work index))).run
          ((pool.step ⟨provider, limit⟩ index).run state).2).1.workers[index]? = _
      rw [stepped]
      exact reached

/-- A worker returns from its session once the peer has stopped writing or a shutdown has been asked
for. -/
theorem Endures.exists_returned {limit : Nat} (fits : limit < allocationMax) {pool : WorkerPool}
    (endures : pool.Endures limit) (provider : Provider σ) {index : Nat} {session : Session}
    (serves : pool.Serves index session)
    (ends : session.connection.mayWrite = false ∨ pool.shutdown = true) (state : σ) :
    ∃ count,
      ((pool.run ⟨provider, limit⟩ (List.replicate count (.work index))).run
        state).1.workers[index]? = some (returned pool.shutdown) := by
  obtain ⟨survives, goes_on⟩ := endures.workers _ (List.mem_of_getElem? serves)
  rcases ends with silent | asked
  · refine WorkerPool.exists_returned fits provider index pool.shutdown
      (fun session => session.connection.mayWrite = false) Session.patience ?_ _ pool session state
      serves rfl survives goes_on silent (Nat.lt_succ_self _)
    intro session state survives silent goes_on
    have small : session.buffer.limit < wordMax :=
      survives.limit_eq ▸ Nat.lt_trans fits (by decide)
    obtain ⟨⟨-, still⟩, less⟩ := Session.patience_step ⟨provider, limit⟩ pool.shutdown session state
      small silent goes_on
    exact ⟨still, less⟩
  · refine WorkerPool.exists_returned fits provider index pool.shutdown (fun _ => True)
      (fun session => session.stage.hurried) ?_ _ pool session state serves rfl survives goes_on
      trivial (Nat.lt_succ_self _)
    intro session state _ _ goes_on
    rw [asked]
    exact ⟨trivial, Session.hurried_step ⟨provider, limit⟩ session state goes_on⟩

/-- A pool with a worker that has not unwound but for all. -/
theorem Endures.hasUnwound_eq {limit : Nat} {pool : WorkerPool} (endures : pool.Endures limit) :
    pool.hasUnwound = false := by
  rw [hasUnwound, List.any_eq_false]
  intro worker member unwound
  have survives := endures.workers worker member
  cases worker with
  | unwound text => exact survives
  | _ => cases unwound

/-- If the buffer cannot be allocated, the first connection takes down the worker that accepts
it. -/
theorem run_unwound {limit : Nat} (large : ¬ limit < allocationMax) (count : Nat)
    (provider : Provider σ) (state : σ) :
    (((start count).run ⟨provider, limit⟩
      (.arrive {} :: List.replicate 6 (.work 0))).run state).1.workers[0]? =
        some (.unwound allocationPanic) := by
  have refused : FrameBuffer.create? limit = none :=
    if_neg fun fits => large (FrameBuffer.capacityFor_le_iff.mp fits)
  obtain ⟨more, some_worker⟩ : ∃ more, max count 1 = more + 1 := ⟨max count 1 - 1, by omega⟩
  unfold start
  rw [some_worker, List.replicate_succ]
  let session : Session := { Session.accept limit {} with stage := .opening }
  let pool : WorkerPool := ⟨.serving session :: List.replicate more .starting, [],
    Counters.recordAll {} [.session], false, []⟩
  show (((pool.step ⟨provider, limit⟩ 0).run state).1.1).workers[0]? = _
  show ((((session.step ⟨provider, limit⟩ false >>= _ : StateM σ (WorkerPool × Effect))).run
    state).1.1).workers[0]? = _
  have unwinds : session.step ⟨provider, limit⟩ false =
      pure (session.goTo (.unwound allocationPanic), {}) := by
    unfold Session.step
    simp only [session, Session.accept, refused]
  rw [unwinds]
  rfl

end WorkerPool

namespace RunningServer

/-- Several things happen to the workers of a server, in order. -/
def run (server : RunningServer) (provider : Provider σ) (acts : List Act) :
    StateM σ RunningServer := do
  let pool ← server.pool.run (server.dispatcher provider) acts
  return { server with pool }

/-- What happens to the workers of a server that has just been started is what happens to a pool. -/
theorem run_running_pool (config : Config) (listener : Listener) (waiting : List Connection)
    (provider : Provider σ) (acts : List Act) (state : σ) :
    (((BoundServer.running ⟨.ofConfig config, listener, waiting⟩).run provider acts).run
        state).1.pool =
      (((WorkerPool.start (ServerSettings.ofConfig config).workerCount waiting).run
        ⟨provider, config.maxFrameBytes.toNat⟩ acts).run state).1 := rfl

/-- No connection has taken down a worker of a server, and none that is being served will. -/
structure Survives (server : RunningServer) (provider : Provider σ) (state : σ) : Prop where
  /-- No worker has unwound. -/
  alive : ∀ worker ∈ server.pool.workers, worker.isUnwound = false
  /-- A worker stops for a shutdown only. -/
  stopped : .stopped ∈ server.pool.workers → server.pool.shutdown = true
  /-- A worker returns from its session once the peer has stopped writing or a shutdown has been
  asked for: it accepts the next connection, or stops. -/
  returns : ∀ index session, server.pool.Serves index session →
    session.connection.mayWrite = false ∨ server.pool.shutdown = true →
    ∃ count, ((server.run provider (List.replicate count (.work index))).run
      state).1.pool.workers[index]? = some (WorkerPool.returned server.pool.shutdown)
  /-- Joining the workers finds no panic. -/
  joins : server.joined ≠ .error (.listener .threadPanic)

/-- A server survives whose workers have not unwound and whose buffers can be allocated. -/
theorem survives_of_endures {server : RunningServer}
    (fits : server.settings.maxFrameBytes.toNat < allocationMax)
    (endures : server.pool.Endures server.settings.maxFrameBytes.toNat) (provider : Provider σ)
    (state : σ) : server.Survives provider state := by
  have none_lost := endures.hasUnwound_eq
  refine ⟨?_, endures.stopped, ?_, ?_⟩
  · intro worker member
    rw [WorkerPool.hasUnwound, List.any_eq_false] at none_lost
    exact Bool.eq_false_iff.mpr (none_lost worker member)
  · intro index session serves ends
    exact endures.exists_returned fits provider serves ends state
  · rw [joined, none_lost]
    exact nofun

/-- The workers of a server survive every connection, whatever is sent on it and whatever the
provider does, exactly if the buffer for the longest frame of the configuration can be allocated. -/
theorem survives_iff (config : Config) (listener : Listener) (provider : Provider σ) (state : σ) :
    (∀ (waiting : List Connection) (acts : List Act),
      let server := BoundServer.running ⟨.ofConfig config, listener, waiting⟩
      let after := (server.run provider acts).run state
      after.1.Survives provider after.2) ↔
    config.maxFrameBytes.toNat < allocationMax := by
  constructor
  · intro survives
    by_contra large
    have lost := WorkerPool.run_unwound large (ServerSettings.ofConfig config).workerCount provider
      state
    have alive := (survives [] (.arrive {} :: List.replicate 6 (.work 0))).alive
    rw [run_running_pool] at alive
    have found := alive (.unwound allocationPanic) (List.mem_of_getElem? lost)
    cases found
  · intro fits waiting acts server after
    have start := WorkerPool.endures_start config.maxFrameBytes.toNat
      (ServerSettings.ofConfig config).workerCount waiting
    exact survives_of_endures fits (start.run fits provider acts state) provider after.2

/-- A configuration with the longest frame that a signed word counts is accepted, and its workers
do not survive their connections. -/
theorem not_survives :
    ¬ ∀ (line : List Bytes) (config : Config),
      CommandLine.load line (fun _ => none) = .ok config →
      ∀ (provider : Provider Unit) (acts : List Act),
        let server := BoundServer.running ⟨.ofConfig config, ⟨"s", 0⟩, []⟩
        (((server.run provider acts).run ()).1).joined ≠ .error (.listener .threadPanic) := by
  intro always
  let line : List Bytes :=
    [Bytes.ofString "acpd", Bytes.ofString "s",
      Bytes.ofString "--max-frame-bytes=9223372036854775807"]
  let config : Config := { socket := ⟨"s"⟩, maxFrameBytes := 9223372036854775807 }
  have accepted : (CommandLine.load line fun _ => none).toOption = some config := by decide +kernel
  have loaded : CommandLine.load line (fun _ => none) = .ok config := by
    cases read : CommandLine.load line fun _ => none with
    | error error =>
      rw [read] at accepted
      cases accepted
    | ok found =>
      rw [read] at accepted
      exact congrArg _ (Option.some.inj accepted)
  let provider : Provider Unit :=
    ⟨fun _ _ _ => pure (.panics "deal"), fun _ _ => pure (.panics "sign"),
      fun _ _ _ => pure (.panics "verify"), 6⟩
  have large : ¬ config.maxFrameBytes.toNat < allocationMax := by decide
  have lost := WorkerPool.run_unwound large (ServerSettings.ofConfig config).workerCount provider ()
  refine always line config loaded provider (.arrive {} :: List.replicate 6 (.work 0)) ?_
  have unwound : (((WorkerPool.start (ServerSettings.ofConfig config).workerCount).run
      ⟨provider, config.maxFrameBytes.toNat⟩
      (.arrive {} :: List.replicate 6 (.work 0))).run ()).1.hasUnwound = true :=
    List.any_eq_true.mpr ⟨_, List.mem_of_getElem? lost, rfl⟩
  exact if_pos unwound

end RunningServer

end ThresholdDaemon
