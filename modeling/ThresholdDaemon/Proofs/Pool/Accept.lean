import ThresholdDaemon.WorkerPool

/-!
# Attempts to take a connection

An attempt takes the connection that has waited longest or none, and nothing else of a pool but the
fault that it meets. What it takes is to be served, or it is lost because setting it up has failed.
-/
namespace ThresholdDaemon

/-- How many of some faults make an attempt lose a connection. -/
def AcceptFault.losses (faults : List AcceptFault) : Nat :=
  faults.countP fun
    | .setUp _ => true
    | .call _ => false

/-- Faults that are told one after the other add up. -/
theorem AcceptFault.losses_append (first second : List AcceptFault) :
    losses (first ++ second) = losses first + losses second := List.countP_append

/-- The connection that an attempt has lost. -/
def Accepted.lost? : Accepted → Option Connection
  | failed _ lost => lost
  | _ => none

namespace WorkerPool

/-- The connection that a worker loses in its next step. -/
def lostBy (pool : WorkerPool) (index : Nat) : Option Connection :=
  match pool.workers[index]? with
  | some (.accepting _) => pool.accept.1.lost?
  | _ => none

/-- An attempt leaves the workers, the counters and the shutdown flag as they are. -/
theorem accept_frame (pool : WorkerPool) :
    pool.accept.2.workers = pool.workers ∧ pool.accept.2.counters = pool.counters ∧
      pool.accept.2.shutdown = pool.shutdown := by
  unfold accept
  dsimp only
  split <;> exact ⟨rfl, rfl, rfl⟩

/-- An attempt takes the first connection for a worker to serve, or no other than the one that it
loses. -/
theorem accept_cases (pool : WorkerPool) :
    (∃ connection, pool.accept.1 = .connection connection ∧
        pool.waiting = connection :: pool.accept.2.waiting) ∨
      (∀ connection, pool.accept.1 ≠ .connection connection) ∧
        pool.waiting = pool.accept.1.lost?.toList ++ pool.accept.2.waiting := by
  unfold accept
  dsimp only
  split
  case h_1 =>
    right
    split <;> exact ⟨nofun, rfl⟩
  case h_2 => exact .inr ⟨nofun, rfl⟩
  case h_3 waiting => exact .inr ⟨nofun, waiting⟩
  case h_4 connection rest none waiting => exact .inl ⟨connection, rfl, waiting⟩

/-- An attempt that loses a connection uses up a fault. -/
theorem losses_accept (pool : WorkerPool) :
    pool.accept.1.lost?.toList.length + AcceptFault.losses pool.accept.2.faults ≤
      AcceptFault.losses pool.faults := by
  have later : AcceptFault.losses pool.faults.tail ≤ AcceptFault.losses pool.faults :=
    (List.tail_sublist pool.faults).countP_le
  unfold accept
  dsimp only
  split
  case h_1 =>
    split <;> simpa [Accepted.lost?] using later
  case h_2 => simpa [Accepted.lost?] using later
  case h_3 error connection rest first waiting =>
    obtain ⟨behind, faults⟩ := List.head?_eq_some_iff.mp first
    rw [faults]
    simp [Accepted.lost?, AcceptFault.losses, Nat.add_comm]
  case h_4 => simpa [Accepted.lost?] using later

end WorkerPool

end ThresholdDaemon
