import ThresholdDaemon.Proofs.Process.Endurance

/-!
# Workers settle

The workers of a server go on one after the other until they have nothing to do. What a step keeps
is kept when they have settled, and once a shutdown has been asked for all of them are over then: a
worker has only so much left to do, which the steps that it is given are enough for.
-/
namespace ThresholdDaemon

variable {σ : Type}

namespace WorkerPool

/-- A step of one worker leaves the others and the shutdown flag as they are. -/
theorem step_frame (dispatcher : Dispatcher σ) (index : Nat) (pool : WorkerPool) (state : σ) :
    let next := ((pool.step dispatcher index).run state).1.1
    next.shutdown = pool.shutdown ∧ next.workers.length = pool.workers.length ∧
      ∀ other, other ≠ index → next.workers[other]? = pool.workers[other]? := by
  have placed (worker : Worker) : (pool.setWorker index worker).workers.length =
      pool.workers.length ∧ ∀ other, other ≠ index →
        (pool.setWorker index worker).workers[other]? = pool.workers[other]? :=
    ⟨List.length_set, fun other apart => List.getElem?_set_ne apart.symm⟩
  unfold step
  cases working : pool.workers[index]? with
  | none => exact ⟨rfl, rfl, fun _ _ => rfl⟩
  | some worker =>
    cases worker with
    | starting => exact ⟨rfl, placed _⟩
    | checking last => cases shutdown : pool.shutdown <;> exact ⟨shutdown, placed _⟩
    | accepting last =>
      obtain ⟨workers, -, shutdown⟩ := pool.accept_frame
      unfold setWorker at placed ⊢
      dsimp only
      generalize pool.accept = outcome at workers shutdown
      obtain ⟨accepted, later⟩ := outcome
      dsimp only at workers shutdown
      rw [← workers] at placed ⊢
      cases accepted <;> exact ⟨shutdown, placed _⟩
    | resting last => exact ⟨rfl, placed _⟩
    | serving session => exact ⟨rfl, placed _⟩
    | stopped => exact ⟨rfl, rfl, fun _ _ => rfl⟩
    | unwound text => exact ⟨rfl, rfl, fun _ _ => rfl⟩

/-- What every step keeps is kept when a worker goes on. -/
theorem advance_keeps {keeps : WorkerPool → Prop} {dispatcher : Dispatcher σ}
    (step : ∀ pool index state, keeps pool → keeps ((pool.step dispatcher index).run state).1.1)
    (index fuel : Nat) {pool : WorkerPool} (start : keeps pool) (state : σ) :
    keeps ((pool.advance dispatcher index fuel).run state).1.1 := by
  induction fuel generalizing pool state with
  | zero => exact start
  | succ fuel ih =>
    unfold advance
    cases pool.workers[index]? with
    | none => exact start
    | some worker =>
      by_cases rests : pool.rests worker = true
      · simp only [if_pos rests]
        exact start
      · simp only [if_neg rests]
        exact ih (step pool index state start) _

/-- The workers with numbers below a bound go on one after the other. -/
def settleBelow (dispatcher : Dispatcher σ) (pool : WorkerPool) (count : Nat) :
    StateM σ (WorkerPool × List Turn) :=
  (List.range count).foldlM (fun (pool, turns) index => do
    let (pool, more) ← pool.advance dispatcher index pool.budget
    return (pool, turns ++ more)) (pool, [])

/-- The worker with the next number goes on behind the others. -/
theorem run_settleBelow_succ (dispatcher : Dispatcher σ) (pool : WorkerPool) (count : Nat)
    (state : σ) :
    let before := (pool.settleBelow dispatcher count).run state
    ((pool.settleBelow dispatcher (count + 1)).run state).1.1 =
      ((before.1.1.advance dispatcher count before.1.1.budget).run before.2).1.1 ∧
    ((pool.settleBelow dispatcher (count + 1)).run state).2 =
      ((before.1.1.advance dispatcher count before.1.1.budget).run before.2).2 := by
  unfold settleBelow
  rw [List.range_succ, List.foldlM_append]
  exact ⟨rfl, rfl⟩

/-- What every step keeps is kept when some workers have settled. -/
theorem settleBelow_keeps {keeps : WorkerPool → Prop} {dispatcher : Dispatcher σ}
    (step : ∀ pool index state, keeps pool → keeps ((pool.step dispatcher index).run state).1.1)
    (count : Nat) {pool : WorkerPool} (start : keeps pool) (state : σ) :
    keeps ((pool.settleBelow dispatcher count).run state).1.1 := by
  induction count with
  | zero => exact start
  | succ count ih =>
    rw [(run_settleBelow_succ dispatcher pool count state).1]
    exact advance_keeps step count _ ih _

/-- What every step keeps is kept when all workers have settled. -/
theorem settle_keeps {keeps : WorkerPool → Prop} {dispatcher : Dispatcher σ}
    (step : ∀ pool index state, keeps pool → keeps ((pool.step dispatcher index).run state).1.1)
    {pool : WorkerPool} (start : keeps pool) (state : σ) :
    keeps ((pool.settle dispatcher).run state).1.1 :=
  settleBelow_keeps step pool.workers.length start state

/-- A bound of the steps that a worker has left once a shutdown has been asked for. A worker that is
about to accept may still take a connection that waits. -/
def left (pool : WorkerPool) : Worker → Nat
  | .stopped | .unwound _ => 0
  | .checking _ => 1
  | .starting | .resting _ => 2
  | .accepting _ => if pool.waiting.isEmpty then 3 else 11
  | .serving session => session.stage.hurried + 2

/-- The steps that a worker has left behind a step of its session. -/
theorem left_workerOf (pool : WorkerPool) (session : Session) :
    pool.left (workerOf session) ≤ if session.isOver then 1 else session.stage.hurried + 2 := by
  unfold workerOf Session.isOver
  cases stage : session.stage <;> simp [left, stage]

/-- Once a shutdown has been asked for, each step of a worker leaves it fewer steps. -/
theorem left_step (dispatcher : Dispatcher σ) {pool : WorkerPool} (asked : pool.shutdown = true)
    {index : Nat} {worker : Worker} (working : pool.workers[index]? = some worker)
    (goes_on : worker.isOver = false) (state : σ) :
    let next := ((pool.step dispatcher index).run state).1.1
    ∃ behind, next.workers[index]? = some behind ∧ next.left behind < pool.left worker := by
  obtain ⟨place, -⟩ := List.getElem?_eq_some_iff.mp working
  have placed (worker : Worker) : (pool.setWorker index worker).workers[index]? = some worker :=
    List.getElem?_set_self place
  unfold step
  rw [working]
  cases worker with
  | starting => exact ⟨.checking, placed _, Nat.lt_add_one 1⟩
  | checking last =>
    simp only [asked]
    exact ⟨.stopped, placed _, Nat.lt_add_one 0⟩
  | accepting last =>
    obtain ⟨workers, -, -⟩ := pool.accept_frame
    have outcomes := pool.accept_cases
    have rests : 2 < if pool.waiting.isEmpty then 3 else 11 := by split <;> decide
    dsimp only
    generalize pool.accept = outcome at workers outcomes
    obtain ⟨accepted, later⟩ := outcome
    have put (worker : Worker) : (later.setWorker index worker).workers[index]? = some worker := by
      have same : later.workers = pool.workers := workers
      exact List.getElem?_set_self (same ▸ place)
    cases accepted with
    | nothing => exact ⟨.resting last, put _, rests⟩
    | connection connection =>
      obtain ⟨_, -, waits⟩ | ⟨other, -⟩ := outcomes
      · refine ⟨.serving (Session.accept dispatcher.frameLimit connection), put _, ?_⟩
        simp [left, waits, Session.accept, Session.Stage.hurried]
      · exact absurd rfl (other connection)
    | failed error lost => exact ⟨.resting (some error.errorKind), put _, rests⟩
  | resting last => exact ⟨.checking last, placed _, Nat.lt_add_one 1⟩
  | serving session =>
    let taken := ((session.step dispatcher pool.shutdown).run state).1.1
    refine ⟨workerOf taken, placed _, Nat.lt_of_le_of_lt (left_workerOf _ taken) ?_⟩
    cases ended : taken.isOver with
    | true => exact Nat.lt_add_left _ (Nat.lt_add_one 1)
    | false =>
      have going : session.isOver = false := by
        cases concluded : session.isOver with
        | false => rfl
        | true =>
          have same := Session.step_of_isOver dispatcher pool.shutdown concluded state
          exact concluded.symm.trans ((congrArg (·.1.1.isOver) same).symm.trans ended)
      have less := Session.hurried_step dispatcher session state going
      rw [← asked] at less
      exact Nat.add_lt_add_right less 2
  | stopped => cases goes_on
  | unwound text => cases goes_on

/-- A worker with nothing left to do is over. -/
theorem isOver_of_left {pool : WorkerPool} {worker : Worker} (done : pool.left worker = 0) :
    worker.isOver = true := by
  cases worker with
  | stopped => rfl
  | unwound text => rfl
  | accepting last =>
    simp only [left] at done
    split at done <;> cases done
  | _ => cases done

/-- Once a shutdown has been asked for, only workers that are over rest. -/
theorem rests_eq_isOver {pool : WorkerPool} (asked : pool.shutdown = true) (worker : Worker) :
    pool.rests worker = worker.isOver := by
  cases worker <;> simp only [rests, Worker.isOver, asked, Bool.not_true, Bool.and_false]

/-- A worker that has as many steps as it has left goes on until it is over. -/
theorem isOver_advance (dispatcher : Dispatcher σ) (index fuel : Nat) {pool : WorkerPool}
    (asked : pool.shutdown = true) {worker : Worker} (working : pool.workers[index]? = some worker)
    (enough : pool.left worker ≤ fuel) (state : σ) :
    ∃ behind, ((pool.advance dispatcher index fuel).run state).1.1.workers[index]? = some behind ∧
      behind.isOver = true := by
  induction fuel generalizing pool worker state with
  | zero => exact ⟨worker, working, isOver_of_left (Nat.le_zero.mp enough)⟩
  | succ fuel ih =>
    unfold advance
    rw [working]
    cases finished : worker.isOver with
    | true =>
      simp only [rests_eq_isOver asked, finished, if_true]
      exact ⟨worker, working, finished⟩
    | false =>
      simp only [rests_eq_isOver asked, finished, Bool.false_eq_true, if_false]
      obtain ⟨behind, next, less⟩ := left_step dispatcher asked working finished state
      have still : ((pool.step dispatcher index).run state).1.1.shutdown = true :=
        (step_frame dispatcher index pool state).1.trans asked
      exact ih still next (Nat.le_of_lt_succ (Nat.lt_of_lt_of_le less enough)) _

/-- Every connection that waits or is being served adds to the budget. -/
theorem le_budget (pool : WorkerPool) :
    9 + 9 * ((pool.workers.filterMap Worker.session?).length + pool.waiting.length) ≤ pool.budget := by
  have grows : ∀ (connections : List Connection) (start : Nat),
      start + 9 * connections.length ≤
        connections.foldl (fun total connection => total + connectionBudget connection) start := by
    intro connections
    induction connections with
    | nil => exact fun start => Nat.le_refl start
    | cons connection rest ih =>
      intro start
      have more := ih (start + connectionBudget connection)
      rw [List.foldl_cons, List.length_cons]
      unfold connectionBudget at more ⊢
      omega
  have all := grows ((pool.workers.filterMap Worker.session?).map (·.connection) ++ pool.waiting)
    (9 + 3 * pool.faults.length)
  rw [List.length_append, List.length_map] at all
  unfold budget
  dsimp only
  omega

/-- The budget is enough for what any worker has left. -/
theorem left_le_budget {pool : WorkerPool} {worker : Worker} (member : worker ∈ pool.workers) :
    pool.left worker ≤ pool.budget := by
  have enough := le_budget pool
  cases worker with
  | accepting last =>
    cases waiting : pool.waiting with
    | nil =>
      simp only [left, waiting, List.isEmpty_nil, if_true]
      omega
    | cons connection rest =>
      simp only [left, waiting, List.isEmpty_cons, Bool.false_eq_true, if_false]
      rw [waiting, List.length_cons] at enough
      omega
  | serving session =>
    have served : session ∈ pool.workers.filterMap Worker.session? :=
      List.mem_filterMap.mpr ⟨_, member, rfl⟩
    have counted := List.length_pos_of_mem served
    have bound := session.stage.hurried_le
    simp only [left]
    omega
  | _ =>
    simp only [left]
    omega

/-- Workers go on one after the other without a step of one for another. -/
theorem advance_frame (dispatcher : Dispatcher σ) (index fuel : Nat) (pool : WorkerPool)
    (state : σ) :
    let next := ((pool.advance dispatcher index fuel).run state).1.1
    next.shutdown = pool.shutdown ∧ next.workers.length = pool.workers.length ∧
      ∀ other, other ≠ index → next.workers[other]? = pool.workers[other]? := by
  induction fuel generalizing pool state with
  | zero => exact ⟨rfl, rfl, fun _ _ => rfl⟩
  | succ fuel ih =>
    unfold advance
    cases pool.workers[index]? with
    | none => exact ⟨rfl, rfl, fun _ _ => rfl⟩
    | some worker =>
      by_cases rests : pool.rests worker = true
      · simp only [if_pos rests]
        exact ⟨rfl, rfl, fun _ _ => rfl⟩
      · simp only [if_neg rests]
        obtain ⟨flag, length, others⟩ := step_frame dispatcher index pool state
        obtain ⟨flag_next, length_next, others_next⟩ := ih
          ((pool.step dispatcher index).run state).1.1 ((pool.step dispatcher index).run state).2
        exact ⟨flag_next.trans flag, length_next.trans length,
          fun other apart => (others_next other apart).trans (others other apart)⟩

/-- Once a shutdown has been asked for, the workers that have settled are over. -/
theorem isOver_settleBelow (dispatcher : Dispatcher σ) {pool : WorkerPool}
    (asked : pool.shutdown = true) (state : σ) (count : Nat) (all : count ≤ pool.workers.length) :
    let next := ((pool.settleBelow dispatcher count).run state).1.1
    next.shutdown = true ∧ next.workers.length = pool.workers.length ∧
      ∀ index, index < count → ∃ behind, next.workers[index]? = some behind ∧ behind.isOver = true := by
  induction count with
  | zero => exact ⟨asked, rfl, fun index none => absurd none (Nat.not_lt_zero index)⟩
  | succ count ih =>
    obtain ⟨flag, length, done⟩ := ih (Nat.le_of_succ_le all)
    rw [(run_settleBelow_succ dispatcher pool count state).1]
    let before := (pool.settleBelow dispatcher count).run state
    obtain ⟨flag_next, length_next, others⟩ :=
      advance_frame dispatcher count before.1.1.budget before.1.1 before.2
    refine ⟨flag_next.trans flag, length_next.trans length, fun index below => ?_⟩
    by_cases last : index = count
    · subst last
      have place : index < before.1.1.workers.length := length ▸ all
      have working := List.getElem?_eq_getElem place
      exact isOver_advance dispatcher index _ flag working
        (left_le_budget (List.getElem_mem place)) _
    · rw [others index last]
      exact done index (Nat.lt_of_le_of_ne (Nat.le_of_lt_succ below) last)

/-- Once a shutdown has been asked for, all workers are over when they have settled. -/
theorem isOver_settle (dispatcher : Dispatcher σ) {pool : WorkerPool}
    (asked : pool.shutdown = true) (state : σ) :
    ((pool.settle dispatcher).run state).1.1.isOver = true := by
  obtain ⟨-, length, done⟩ :=
    isOver_settleBelow dispatcher asked state pool.workers.length (Nat.le_refl _)
  refine List.all_eq_true.mpr fun worker member => ?_
  obtain ⟨index, at_index⟩ := List.mem_iff_getElem?.mp member
  obtain ⟨place, -⟩ := List.getElem?_eq_some_iff.mp at_index
  obtain ⟨behind, found, finished⟩ := done index (length ▸ place)
  obtain rfl := Option.some.inj (at_index.symm.trans found)
  exact finished

end WorkerPool

end ThresholdDaemon
