import ThresholdDaemon.Proofs.Pool.Service
import ThresholdDaemon.Proofs.Server.Binding
import ThresholdDaemon.Proofs.Server.Settling

/-!
# What happens to a running server

A running server has the socket that was bound for it until the last of its workers is over, and then
its path is free. That is so whatever its clients do, in whatever order its workers go on and whether
or not a shutdown has been asked for. Nothing happens to the workers of a server that are all over,
and they count nothing any more.
-/
namespace ThresholdDaemon

variable {σ : Type}

namespace WorkerPool

variable {pool : WorkerPool} {limit : Nat}

/-- A shutdown is never taken back. -/
theorem shutdown_undergo (dispatcher : Dispatcher σ) (asked : pool.shutdown = true)
    (act : PoolAct σ) : (pool.undergo dispatcher act).shutdown = true := by
  cases act with
  | work index state => exact (step_frame dispatcher index pool state).1.trans asked
  | shutdown => rfl
  | _ => exact asked

/-- Only a shutdown asks for one. -/
theorem shutdown_undergo_of_ne (dispatcher : Dispatcher σ) (wanted : pool.shutdown = false)
    {act : PoolAct σ} (free : act ≠ .shutdown) : (pool.undergo dispatcher act).shutdown = false := by
  cases act with
  | work index state => exact (step_frame dispatcher index pool state).1.trans wanted
  | shutdown => exact absurd rfl free
  | _ => exact wanted

/-- Nothing happens to workers that are all over, and they count nothing. -/
theorem undergo_of_isOver_all (dispatcher : Dispatcher σ) (finished : pool.isOver = true)
    (act : PoolAct σ) :
    (pool.undergo dispatcher act).workers = pool.workers ∧
      (pool.undergo dispatcher act).counters = pool.counters := by
  have over_at (index : Nat) (worker : Worker) (there : pool.workers[index]? = some worker) :
      worker.isOver = true :=
    List.all_eq_true.mp finished worker (List.mem_of_getElem? there)
  constructor
  · apply List.ext_getElem?
    intro index
    cases there : pool.workers[index]? with
    | none =>
      rw [List.getElem?_eq_none_iff] at there ⊢
      rwa [length_undergo]
    | some worker => exact undergo_of_isOver dispatcher there (over_at index worker there)
  · cases act with
    | work index state =>
      show ((pool.step dispatcher index).run state).1.1.counters = pool.counters
      unfold step
      cases there : pool.workers[index]? with
      | none => rfl
      | some worker =>
        have concluded := over_at index worker there
        cases worker with
        | stopped | unwound text => rfl
        | _ => cases concluded
    | _ => rfl

/-- Workers that are all over stay so. -/
theorem isOver_undergo (dispatcher : Dispatcher σ) (finished : pool.isOver = true)
    (act : PoolAct σ) : (pool.undergo dispatcher act).isOver = true := by
  unfold isOver
  rw [(undergo_of_isOver_all dispatcher finished act).1]
  exact finished

/-- No worker is lost through what a peer does. -/
theorem Endures.changeConnection (endures : pool.Endures limit) (number : Nat)
    (change : Connection → Connection) : (pool.changeConnection number change).Endures limit := by
  constructor
  · intro worker member
    obtain ⟨before, present, rfl⟩ := List.mem_map.mp member
    have survives := endures.workers before present
    cases before with
    | serving session => exact ⟨⟨survives.1.limit_eq, survives.1.not_unwound⟩, survives.2⟩
    | unwound text => exact survives
    | _ => trivial
  · intro member
    obtain ⟨before, present, same⟩ := List.mem_map.mp member
    cases before with
    | stopped => exact endures.stopped present
    | _ => cases same

/-- No worker is lost through anything that happens. -/
theorem Endures.undergo (fits : limit < allocationMax) (endures : pool.Endures limit)
    (provider : Provider σ) (act : PoolAct σ) :
    (pool.undergo ⟨provider, limit⟩ act).Endures limit := by
  cases act with
  | arrive connection => exact ⟨endures.workers, endures.stopped⟩
  | peer number act => exact endures.changeConnection number act.change
  | shutdown => exact ⟨endures.workers, fun _ => rfl⟩
  | hinder fault => exact ⟨endures.workers, endures.stopped⟩
  | work index state => exact endures.step fits provider index state
  | join => exact endures

end WorkerPool

namespace RunningServer

/-- Something happens to a server. Its last worker takes the listener with it. -/
def undergo (server : RunningServer) (provider : Provider σ) (files : FileSystem)
    (act : PoolAct σ) : RunningServer × FileSystem :=
  let after := { server with
    pool := server.pool.undergo (server.dispatcher provider) act }.releaseIfOver files
  (after.1, after.2.1)

variable {server : RunningServer} {files : FileSystem}

/-- What becomes of a server to which something happens. -/
theorem undergo_fst (server : RunningServer) (provider : Provider σ) (files : FileSystem)
    (act : PoolAct σ) :
    (server.undergo provider files act).1.settings = server.settings ∧
      (server.undergo provider files act).1.pool =
        server.pool.undergo (server.dispatcher provider) act := by
  unfold undergo
  constructor
  all_goals rw [(releaseIfOver_eq _ files).1]

/-- A server runs that was bound. -/
structure Runs (bound : BoundServer) (server : RunningServer) (files : FileSystem) : Prop where
  /-- It has the same settings. -/
  settings_eq : server.settings = bound.settings
  /-- It has as many workers as its settings tell. -/
  staffed : server.pool.workers.length = bound.settings.workerCount
  /-- It has its listener until its workers are all over. -/
  listener_eq : server.listener = if server.pool.isOver then none else some bound.listener
  /-- The listener owns its socket. -/
  owns : server.pool.isOver = false → bound.listener.Owns files
  /-- Once the workers are all over the path is free. -/
  free : server.pool.isOver = true → files.IsFree bound.listener.path

namespace Runs

variable {bound : BoundServer}

/-- A server runs that has been started. -/
theorem running (owns : bound.listener.Owns files) : Runs bound bound.running files := by
  have going : bound.running.pool.isOver = false := (IsOpen.running bound).isOver_eq
  refine ⟨rfl, ?_, ?_, fun _ => owns, fun finished => ?_⟩
  · simp [BoundServer.running, WorkerPool.start, ServerSettings.workerCount]
  · rw [going]
    rfl
  · rw [going] at finished
    cases finished

/-- A server runs on with other workers of the same number, if those that are all over stay so. -/
theorem release (runs : Runs bound server files) {pool : WorkerPool}
    (staffed : pool.workers.length = server.pool.workers.length)
    (stays : server.pool.isOver = true → pool.isOver = true) :
    Runs bound ({ server with pool }.releaseIfOver files).1
      ({ server with pool }.releaseIfOver files).2.1 := by
  obtain ⟨later, released⟩ := releaseIfOver_eq { server with pool } files
  rw [later, released, runs.listener_eq]
  -- The listener goes with the last worker, so it is there only if a worker was left before.
  cases before : server.pool.isOver with
  | true =>
    simp only [stays before, if_true]
    exact ⟨runs.settings_eq, staffed.trans runs.staffed, (if_pos (stays before)).symm,
      fun going => absurd (stays before) (by simp [going]), fun _ => runs.free before⟩
  | false =>
    have owns := runs.owns before
    cases after : pool.isOver with
    | true =>
      exact ⟨runs.settings_eq, staffed.trans runs.staffed, (if_pos after).symm,
        fun going => absurd after (by simp [going]), fun _ => owns.isFree_release⟩
    | false =>
      exact ⟨runs.settings_eq, staffed.trans runs.staffed, by simp [after], fun _ => owns,
        fun finished => absurd finished (by simp [after])⟩

/-- A server runs on whatever happens. -/
theorem undergo (runs : Runs bound server files) (provider : Provider σ) (act : PoolAct σ) :
    Runs bound (server.undergo provider files act).1 (server.undergo provider files act).2 :=
  runs.release (WorkerPool.length_undergo _ _ act)
    fun finished => WorkerPool.isOver_undergo _ finished act

/-- A server that has been asked to end runs until its workers are all over. -/
theorem settle (runs : Runs bound server files) (asked : server.pool.shutdown = true)
    (provider : Provider σ) (state : σ) :
    let after := ((server.settle provider files).run state).1
    Runs bound after.1 after.2.1 ∧ after.1.pool.isOver = true := by
  have staffed : (server.settled provider state).pool.workers.length =
      server.pool.workers.length :=
    WorkerPool.settle_keeps (fun pool index state kept =>
      (WorkerPool.step_frame (server.dispatcher provider) index pool state).2.1.trans kept) rfl state
  have finished := isOver_settled server asked provider state
  constructor
  · exact runs.release staffed fun _ => finished
  · rw [(run_settle server provider files state).1]
    exact finished

/-- A server of which all workers are over has given its listener away. -/
theorem listener_eq_none (runs : Runs bound server files) (finished : server.pool.isOver = true) :
    server.listener = none := runs.listener_eq.trans (if_pos finished)

end Runs

/-- A server takes connections whatever happens, if the buffer for its frames can be allocated and no
shutdown is asked for. -/
theorem IsOpen.undergo (opened : server.IsOpen)
    (fits : server.settings.maxFrameBytes.toNat < allocationMax) (provider : Provider σ)
    (files : FileSystem) {act : PoolAct σ} (free : act ≠ .shutdown) :
    (server.undergo provider files act).1.IsOpen := by
  let pool := server.pool.undergo (server.dispatcher provider) act
  have waiting : IsOpen { server with pool } := by
    refine ⟨opened.listens, fun none => opened.staffed ?_, opened.endures.undergo fits provider act,
      WorkerPool.shutdown_undergo_of_ne _ opened.wanted free⟩
    have length := WorkerPool.length_undergo (server.dispatcher provider) server.pool act
    rw [show (server.pool.undergo (server.dispatcher provider) act).workers = [] from none] at length
    exact List.eq_nil_of_length_eq_zero length.symm
  have same : (server.undergo provider files act).1 = { server with pool } := by
    unfold RunningServer.undergo
    rw [(releaseIfOver_eq _ files).1]
    simp only [waiting.isOver_eq, pool]
    rfl
  rw [same]
  exact waiting

end RunningServer

end ThresholdDaemon
