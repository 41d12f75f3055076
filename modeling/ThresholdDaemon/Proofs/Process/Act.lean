import Mathlib.Data.List.Induction
import ThresholdDaemon.Proofs.Pool.Accept

/-!
# Servers in one process

The servers of a process share the state of a provider and nothing else: each has its own workers,
its own counters and its own connections. Whatever one of them does is one act, and the acts of all
servers and all their workers come in any order. A server keeps its history, which no act looks at.
-/
namespace ThresholdDaemon

/-- A worker is at work on a session. -/
def WorkerPool.Serves (pool : WorkerPool) (worker : Nat) (session : Session) : Prop :=
  pool.workers[worker]? = some (.serving session)

/-- A server of a process. -/
structure Hosted (σ τ : Type) where
  /-- What handles the frames of its connections. -/
  dispatcher : Dispatcher (σ × τ)
  /-- Its workers, its counters and the connections that wait. -/
  pool : WorkerPool
  /-- The coins that are left for the session of each connection. -/
  coins : Nat → τ
  /-- The connections that have arrived; each has the number of its place here. -/
  arrived : List Connection := []
  /-- What its workers have done, and whether a shutdown had been asked for when they did it. -/
  turns : List (Bool × Turn) := []
  /-- What its attempts to take a connection meet, all of it since the start. -/
  faults : List AcceptFault := []
  /-- The connections that these attempts have lost. -/
  lost : List Nat := []

/-- What a server may do next. -/
inductive Act where
  /-- A connection arrives. -/
  | arrive (connection : Connection)
  /-- A shutdown is asked for. -/
  | shutdown
  /-- A later attempt to take a connection meets a fault. -/
  | hinder (fault : AcceptFault)
  /-- A worker takes its next step. -/
  | work (worker : Nat)

namespace Hosted

variable {σ τ : Type}

/-- A server that starts so many workers. -/
def start (dispatcher : Dispatcher (σ × τ)) (workers : Nat) (coins : Nat → τ) : Hosted σ τ where
  dispatcher
  pool := WorkerPool.start workers
  coins

/-- A connection arrives and is numbered. -/
def arrive (hosted : Hosted σ τ) (connection : Connection) : Hosted σ τ :=
  let numbered := { connection with number := hosted.arrived.length }
  { hosted with pool := hosted.pool.arrive numbered, arrived := hosted.arrived ++ [numbered] }

/-- A worker takes its next step, with the coins of the session that it serves. -/
def work (hosted : Hosted σ τ) (worker : Nat) : StateM σ (Hosted σ τ) := fun state =>
  let number := hosted.pool.servedBy worker
  let owner := number.getD 0
  let ((pool, effect), state, left) :=
    (hosted.pool.step hosted.dispatcher worker).run (state, hosted.coins owner)
  ({ hosted with
      pool
      coins := fun other => if other = owner then left else hosted.coins other
      turns := hosted.turns ++ [(hosted.pool.shutdown, ⟨worker, number, effect⟩)]
      lost := hosted.lost ++ ((hosted.pool.lostBy worker).map (·.number)).toList }, state)

/-- A later attempt to take a connection meets a fault. -/
def hinder (hosted : Hosted σ τ) (fault : AcceptFault) : Hosted σ τ :=
  { hosted with pool := hosted.pool.hinder fault, faults := hosted.faults ++ [fault] }

/-- The server does something. -/
def step (hosted : Hosted σ τ) : Act → StateM σ (Hosted σ τ)
  | .arrive connection => pure (hosted.arrive connection)
  | .shutdown => pure { hosted with pool := hosted.pool.requestShutdown }
  | .hinder fault => pure (hosted.hinder fault)
  | .work worker => hosted.work worker

/-- The turns that went to the session of a connection. -/
def turnsOf (hosted : Hosted σ τ) (number : Nat) : List (Bool × Turn) :=
  hosted.turns.filter (·.2.connection = some number)

/-- For each step of the session of a connection, whether a shutdown had been asked for. -/
def flags (hosted : Hosted σ τ) (number : Nat) : List Bool :=
  (hosted.turnsOf number).map Prod.fst

/-- The bytes that the client of a connection has received. -/
def received (hosted : Hosted σ τ) (number : Nat) : Bytes :=
  Turn.sentTo number (hosted.turns.map Prod.snd)

end Hosted

/-- The servers of a process and what they share of the provider. -/
structure Process (σ τ : Type) where
  /-- The servers. -/
  servers : List (Hosted σ τ)
  /-- What is shared. -/
  shared : σ

namespace Process

variable {σ τ : Type}

/-- One server does something. -/
def step (process : Process σ τ) (index : Nat) (act : Act) : Process σ τ :=
  match process.servers[index]? with
  | none => process
  | some hosted =>
    let (hosted, shared) := (hosted.step act).run process.shared
    { servers := process.servers.set index hosted, shared }

/-- The servers do several things in order. -/
def run (process : Process σ τ) (acts : List (Nat × Act)) : Process σ τ :=
  acts.foldl (fun process act => process.step act.1 act.2) process

/-- No server comes or goes. -/
@[simp] theorem length_run (process : Process σ τ) (acts : List (Nat × Act)) :
    (process.run acts).servers.length = process.servers.length := by
  induction acts generalizing process with
  | nil => rfl
  | cons act rest ih =>
    have behind := ih (process.step act.1 act.2)
    have first : (process.step act.1 act.2).servers.length = process.servers.length := by
      unfold Process.step
      split
      · rfl
      · exact List.length_set
    exact behind.trans first

/-- What the steps of each server keep is kept along every run of the process. -/
theorem run_keeps {process : Process σ τ} (keeps : Hosted σ τ → Hosted σ τ → Prop)
    (start : ∀ origin ∈ process.servers, keeps origin origin)
    (step : ∀ origin ∈ process.servers, ∀ hosted act shared, keeps origin hosted →
      keeps origin ((hosted.step act).run shared).1)
    (acts : List (Nat × Act)) {index : Nat} {hosted : Hosted σ τ}
    (found : (process.run acts).servers[index]? = some hosted) :
    ∃ origin ∈ process.servers, process.servers[index]? = some origin ∧ keeps origin hosted := by
  -- The acts are taken from the last one on, so that the process at the start stays the same.
  induction acts using List.reverseRecOn generalizing index hosted with
  | nil =>
    have member := List.mem_of_getElem? found
    exact ⟨hosted, member, found, start hosted member⟩
  | append_singleton acts act ih =>
    rw [run, List.foldl_append] at found
    change ((process.run acts).step act.1 act.2).servers[index]? = some hosted at found
    unfold Process.step at found
    cases acting : (process.run acts).servers[act.1]? with
    | none =>
      rw [acting] at found
      exact ih found
    | some before =>
      rw [acting] at found
      change ((process.run acts).servers.set act.1
        ((before.step act.2).run (process.run acts).shared).1)[index]? = some hosted at found
      by_cases same : act.1 = index
      · obtain rfl := same
        obtain ⟨place, -⟩ := List.getElem?_eq_some_iff.mp acting
        rw [List.getElem?_set_self place] at found
        obtain ⟨origin, member, at_place, kept⟩ := ih acting
        obtain rfl := Option.some.inj found
        exact ⟨origin, member, at_place, step origin member before act.2 _ kept⟩
      · rw [List.getElem?_set_ne same] at found
        exact ih found

end Process

end ThresholdDaemon
