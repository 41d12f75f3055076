import ThresholdDaemon.Proofs.Process.Settling
import ThresholdDaemon.Server

/-!
# Servers settle

A server keeps its listener while a worker is left, which is so as long as the buffer for its frames
can be allocated and no shutdown has been asked for. Once one has been, the last worker takes the
listener with it. A server that cannot be started with all of its workers is left with none of them
and without its listener.
-/
namespace ThresholdDaemon.RunningServer

variable {σ : Type}

/-- The listener goes exactly with the last worker. -/
theorem releaseIfOver_eq (server : RunningServer) (fs : FileSystem) :
    (server.releaseIfOver fs).1 =
        { server with listener := if server.pool.isOver then none else server.listener } ∧
      (server.releaseIfOver fs).2.1 =
        if server.pool.isOver then server.listener.elim fs fun listener => (listener.release fs).1
        else fs := by
  obtain ⟨settings, listener, pool⟩ := server
  unfold releaseIfOver
  cases listener with
  | none => simp
  | some listener => by_cases finished : pool.isOver = true <;> simp [finished]

/-- A server whose workers have settled. The last of them takes the listener with it. -/
def settled (server : RunningServer) (provider : Provider σ) (state : σ) : RunningServer :=
  let pool := ((server.pool.settle (server.dispatcher provider)).run state).1.1
  { server with pool, listener := if pool.isOver then none else server.listener }

/-- A server settles with its workers, and its socket goes exactly with the last of them. -/
theorem run_settle (server : RunningServer) (provider : Provider σ) (fs : FileSystem) (state : σ) :
    let after := ((server.settle provider fs).run state).1
    after.1 = server.settled provider state ∧
      after.2.1 =
        if (server.settled provider state).pool.isOver then
          server.listener.elim fs fun listener => (listener.release fs).1
        else fs :=
  releaseIfOver_eq
    { server with pool := ((server.pool.settle (server.dispatcher provider)).run state).1.1 } fs

/-- Once a shutdown has been asked for, no worker is left that has settled. -/
theorem isOver_settled (server : RunningServer) (asked : server.pool.shutdown = true)
    (provider : Provider σ) (state : σ) : (server.settled provider state).pool.isOver = true :=
  WorkerPool.isOver_settle (server.dispatcher provider) asked state

/-- A server that is abandoned has no worker left, and its socket goes. -/
theorem run_abandon (server : RunningServer) (provider : Provider σ) (fs : FileSystem) (state : σ) :
    let after := ((server.abandon provider fs).run state).1
    after.1 = (server.listener.elim fs fun listener => (listener.release fs).1) ∧
      after.2.1.listener = none ∧ after.2.1.pool.isOver = true := by
  refine ⟨?_, rfl, WorkerPool.isOver_settle (server.dispatcher provider) rfl state⟩
  show (server.listener.elim (fs, []) (·.release fs)).1 = _
  cases server.listener <;> rfl

/-- A server takes connections: it has its listener and all of its workers. -/
structure IsOpen (server : RunningServer) : Prop where
  /-- The listener is there. -/
  listens : server.listener.isSome
  /-- There are workers. -/
  staffed : server.pool.workers ≠ []
  /-- No worker has unwound, and none has stopped before a shutdown. -/
  endures : server.pool.Endures server.settings.maxFrameBytes.toNat
  /-- No shutdown has been asked for. -/
  wanted : server.pool.shutdown = false

namespace IsOpen

variable {server : RunningServer}

/-- A server that has just been started takes connections. -/
theorem running (server : BoundServer) : server.running.IsOpen := by
  refine ⟨rfl, ?_, WorkerPool.endures_start _ _ _, rfl⟩
  intro none
  have workers := congrArg List.length none
  simp [BoundServer.running, WorkerPool.start] at workers

/-- A server that takes connections takes one more. -/
theorem arrive (opened : server.IsOpen) (connection : Connection) :
    (server.arrive connection).IsOpen :=
  ⟨opened.listens, opened.staffed, ⟨opened.endures.workers, opened.endures.stopped⟩, opened.wanted⟩

/-- No worker is over of a server that takes connections. -/
theorem not_isOver (opened : server.IsOpen) : ∀ worker ∈ server.pool.workers,
    worker.isOver = false := by
  intro worker member
  cases worker with
  | stopped => cases opened.wanted.symm.trans (opened.endures.stopped member)
  | unwound text => exact (opened.endures.workers _ member).elim
  | _ => rfl

/-- The workers of a server that takes connections are not all over. -/
theorem isOver_eq (opened : server.IsOpen) : server.pool.isOver = false := by
  obtain ⟨first, rest, workers⟩ := List.exists_cons_of_ne_nil opened.staffed
  have going := opened.not_isOver first (by simp [workers])
  unfold WorkerPool.isOver
  rw [workers, List.all_cons, going, Bool.false_and]

/-- A server takes connections once its workers have settled, if the buffer for its frames can be
allocated. -/
theorem settled (opened : server.IsOpen)
    (fits : server.settings.maxFrameBytes.toNat < allocationMax) (provider : Provider σ)
    (state : σ) : (server.settled provider state).IsOpen := by
  let keeps (pool : WorkerPool) : Prop :=
    pool.Endures server.settings.maxFrameBytes.toNat ∧ pool.shutdown = false ∧ pool.workers ≠ []
  have step (pool : WorkerPool) (index : Nat) (state : σ) (kept : keeps pool) :
      keeps ((pool.step (server.dispatcher provider) index).run state).1.1 := by
    obtain ⟨flag, length, -⟩ := WorkerPool.step_frame (server.dispatcher provider) index pool state
    refine ⟨kept.1.step fits provider index state, flag.trans kept.2.1, fun none => kept.2.2 ?_⟩
    rw [none] at length
    exact List.eq_nil_of_length_eq_zero length.symm
  have kept : keeps (server.settled provider state).pool :=
    WorkerPool.settle_keeps step ⟨opened.endures, opened.wanted, opened.staffed⟩ state
  have waiting : IsOpen { server with pool := (server.settled provider state).pool } :=
    ⟨opened.listens, kept.2.2, kept.1, kept.2.1⟩
  refine ⟨?_, kept.2.2, kept.1, kept.2.1⟩
  have listener : (server.settled provider state).listener = server.listener :=
    if_neg (Bool.eq_false_iff.mp waiting.isOver_eq)
  rw [listener]
  exact opened.listens

/-- Joining a server that has been asked to shut down finds no panic, if the buffer for its frames
can be allocated. -/
theorem joined (opened : server.IsOpen)
    (fits : server.settings.maxFrameBytes.toNat < allocationMax) (provider : Provider σ)
    (state : σ) : ∃ events, (server.requestShutdown.settled provider state).joined = .ok events := by
  have kept : ((server.requestShutdown.settled provider state).pool).Endures
      server.settings.maxFrameBytes.toNat :=
    WorkerPool.settle_keeps (fun pool index state kept => kept.step fits provider index state)
      ⟨opened.endures.workers, fun _ => rfl⟩ state
  unfold RunningServer.joined
  rw [if_neg (by simp [kept.hasUnwound_eq])]
  exact ⟨_, rfl⟩

end IsOpen

end ThresholdDaemon.RunningServer

namespace ThresholdDaemon.BoundServer

variable {σ : Type} {server : BoundServer} {faults : SpawnFaults} {index : Nat} {error : SystemError}

/-- All workers of a server can be started. -/
theorem unspawned?_eq_none :
    server.unspawned? faults = none ↔
      ∀ index < server.settings.workerCount, faults index = none := by
  unfold unspawned?
  simp only [List.findSome?_eq_none_iff, List.mem_range, Option.map_eq_none_iff]

/-- A server that can be started runs with all of its workers. -/
theorem start_of_staffed (staffed : server.unspawned? faults = none) (provider : Provider σ)
    (fs : FileSystem) (state : σ) :
    (server.start faults provider fs).run state =
      ((fs, { server := server.running, log := server.startedEvents }), state) := by
  unfold start
  rw [staffed]
  rfl

/-- A server that cannot be started fails for the first worker without a thread, and its socket
goes. -/
theorem start_of_unspawned (unspawned : server.unspawned? faults = some (index, error))
    (provider : Provider σ) (fs : FileSystem) (state : σ) :
    let after := ((server.start faults provider fs).run state).1
    after.1 = (server.listener.release fs).1 ∧
      after.2.result = .error (.listener (.spawnWorker index error)) := by
  have files := ((server.withWorkers index).run_abandon provider fs state).1
  unfold start
  rw [unspawned]
  exact ⟨files, rfl⟩

end ThresholdDaemon.BoundServer
