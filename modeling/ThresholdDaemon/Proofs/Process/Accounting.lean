import Mathlib.Algebra.BigOperators.Group.Finset.Piecewise
import Mathlib.Algebra.Order.Ring.Nat
import ThresholdDaemon.Proofs.Process.Isolation

/-!
# What the sessions of a process come to

However the servers of a process and their workers go on, each client receives what it would
receive if its session ran alone, and the counters of a server are the sums of what its own
sessions contribute. Only sessions that have done something which they still have to count are
missing from the counters. A connection is lost only where setting it up fails, and then it has no
session.
-/
namespace ThresholdDaemon

variable {σ τ : Type}

/-- Flags that stay once they show are those of a moment, which is how many come before it. -/
theorem flags_eq_moment (flags : List Bool)
    (ordered : flags.Pairwise fun first second => first = true → second = true) (time : Nat) :
    flags = (List.range' time flags.length).map fun now =>
      decide (time + flags.count false ≤ now) := by
  induction flags generalizing time with
  | nil => rfl
  | cons first rest ih =>
    obtain ⟨later, rest_ordered⟩ := List.pairwise_cons.mp ordered
    have behind := ih rest_ordered (time + 1)
    rw [List.length_cons, List.range'_succ, List.map_cons]
    cases first with
    | true =>
      have none_before : rest.count false = 0 := by
        rw [List.count_eq_zero]
        exact fun member => nomatch later false member rfl
      rw [none_before] at behind
      rw [List.count_cons_of_ne (by decide), none_before]
      congr 1
      · simp
      · rw [behind, List.length_map, List.length_range']
        refine List.map_congr_left fun now member => ?_
        have bound := (List.mem_range'_1.mp member).1
        rw [decide_eq_true bound, decide_eq_true (by omega)]
    | false =>
      rw [List.count_cons_self, ← Nat.add_assoc, Nat.add_right_comm]
      congr 1
      rw [eq_comm, decide_eq_false_iff_not]
      omega

/-- What a session contributes to the counters: what it has counted, and what it has still to count
for what it has done. -/
def Session.contribution (session : Session) (effect : Effect) : List Counter :=
  effect.counted ++ session.stage.owes

/-- No session has done something that it has still to count. -/
def WorkerPool.IsQuiet (pool : WorkerPool) : Prop :=
  ∀ worker session, pool.Serves worker session → session.stage.owes = []

/-- A session that is over has nothing to count. -/
theorem Session.owes_of_isOver {session : Session} (concluded : session.isOver) :
    session.stage.owes = [] := by
  unfold isOver at concluded
  cases stage : session.stage <;> simp_all [Stage.owes]

/-- The sum over some first numbers of what one of them has. -/
theorem sum_range_single {place count : Nat} (member : place < count) (value : Nat) :
    ((List.range count).map fun number => if number = place then value else 0).sum = value := by
  have single := Finset.sum_ite_eq' (Finset.range count) place fun _ => value
  rwa [if_pos (Finset.mem_range.mpr member)] at single

/-- What some turns count is counted by one connection each. -/
theorem count_turns (turns : List (Bool × Turn)) (taken : Nat) (counter : Counter)
    (idle : ∀ turn ∈ turns, turn.2.connection = none → turn.2.effect.counted = [])
    (known : ∀ turn ∈ turns, ∀ number, turn.2.connection = some number → number < taken) :
    (turns.flatMap (·.2.effect.counted)).count counter =
      ((List.range taken).map fun number =>
        ((turns.filter (·.2.connection = some number)).flatMap (·.2.effect.counted)).count
          counter).sum := by
  induction turns with
  | nil => simp
  | cons turn rest ih =>
    have behind := ih (fun other member => idle other (List.mem_cons_of_mem turn member))
      (fun other member => known other (List.mem_cons_of_mem turn member))
    rw [List.flatMap_cons, List.count_append, behind]
    cases owner : turn.2.connection with
    | none => simp [owner, idle turn List.mem_cons_self owner]
    | some place =>
      -- What the turn counts is added to the sum at the place of its connection only.
      have member := known turn List.mem_cons_self place owner
      rw [← sum_range_single member (turn.2.effect.counted.count counter), ← List.sum_map_add]
      congr 1
      refine List.map_congr_left fun number _ => ?_
      by_cases own : number = place
      · simp [owner, own]
      · simp [owner, own, Ne.symm own]

namespace Hosted

/-- How many steps the session of a connection took before a shutdown was asked for. -/
def moment (hosted : Hosted σ τ) (number : Nat) : Nat := (hosted.flags number).count false

/-- How many steps the session of a connection has taken. -/
def steps (hosted : Hosted σ τ) (number : Nat) : Nat := (hosted.flags number).length

/-- The connections that do not wait any more. -/
def departed (hosted : Hosted σ τ) : List Connection :=
  hosted.arrived.take (hosted.arrived.length - hosted.pool.waiting.length)

/-- The connections that have got a session. -/
def sessions (hosted : Hosted σ τ) : List Connection :=
  hosted.departed.filter (·.number ∉ hosted.lost)

/-- What the session of a connection comes to within some steps if it runs alone, with its own coins
and its own moment of a shutdown. -/
def alone (origin hosted : Hosted σ τ) (shared : σ) (connection : Connection) (fuel : Nat) :
    Session × Effect :=
  ((Session.serve origin.dispatcher (some (hosted.moment connection.number)) connection fuel).run
    (shared, origin.coins connection.number)).1

/-- Running alone is taking the steps that the history tells. -/
theorem alone_eq_solo (origin hosted : Hosted σ τ) (shared : σ) (connection : Connection)
    (ordered : hosted.turns.Pairwise fun first second => first.1 = true → second.1 = true) :
    (origin.alone hosted shared connection (hosted.steps connection.number)) =
      (origin.solo shared connection (hosted.flags connection.number)).1 := by
  have flags := flags_eq_moment (hosted.flags connection.number)
    (List.pairwise_map.mpr (ordered.filter _)) 0
  rw [Nat.zero_add] at flags
  unfold alone solo Session.serve
  rw [Session.runFrom_eq_stepThrough]
  congr 3
  exact flags.symm

/-- A session that is over is over for good. -/
theorem alone_of_isOver (origin hosted : Hosted σ τ) (shared : σ) (connection : Connection)
    {fuel : Nat} (concluded : (origin.alone hosted shared connection fuel).1.isOver) (more : Nat) :
    origin.alone hosted shared connection (fuel + more) =
      origin.alone hosted shared connection fuel := by
  unfold alone Session.serve at concluded ⊢
  rw [Session.runFrom_eq_stepThrough] at concluded ⊢
  rw [Session.runFrom_eq_stepThrough, ← List.range'_append, List.map_append,
    Session.stepThrough_append]
  dsimp only
  rw [Session.stepThrough_of_isOver _ _ concluded, Effect.append_empty]

namespace Isolated

variable {origin hosted : Hosted σ τ} {taken : Nat}

/-- A connection waits, or a worker is at work on its session, or the session is over, or the
connection is lost. -/
theorem waits_or_works_or_over (isolated : Isolated origin hosted taken) (connection : Connection)
    (member : connection ∈ hosted.arrived) (shared : σ) :
    let alone := origin.alone hosted shared connection (hosted.steps connection.number)
    connection ∈ hosted.pool.waiting ∨ (∃ worker, hosted.pool.Serves worker alone.1) ∨
      alone.1.isOver ∨ connection.number ∈ hosted.lost := by
  intro alone
  obtain ⟨place, at_place⟩ := List.getElem?_of_mem member
  have number := isolated.numbered place connection at_place
  have follows := isolated.follows connection member shared
  have same := origin.alone_eq_solo hosted shared connection isolated.ordered
  by_cases early : connection.number < taken
  · obtain ⟨worker, session, serves, own⟩ | concluded | lost := follows.left early
    · refine .inr (.inl ⟨worker, ?_⟩)
      rw [follows.working worker session serves own, ← same] at serves
      exact serves
    · refine .inr (.inr (.inl ?_))
      rw [← same] at concluded
      exact concluded
    · exact .inr (.inr (.inr lost))
  · refine .inl ?_
    rw [isolated.waiting]
    refine List.mem_of_getElem? (i := place - taken) ?_
    rw [List.getElem?_drop]
    rw [← at_place]
    congr 1
    omega

/-- The session of a connection that is lost takes no step. -/
theorem flags_of_lost (isolated : Isolated origin hosted taken) {number : Nat}
    (lost : number ∈ hosted.lost) : hosted.flags number = [] := by
  rw [flags, (isolated.unserved number lost).2.1, List.map_nil]

/-- The connections that do not wait any more are those that are taken. -/
theorem departed_eq (isolated : Isolated origin hosted taken) :
    hosted.departed = hosted.arrived.take taken := by
  have bound := isolated.arrived
  rw [departed, isolated.waiting, List.length_drop]
  congr 1
  omega

/-- The numbers of the connections that are taken. -/
theorem numbers_eq (isolated : Isolated origin hosted taken) :
    hosted.departed.map Connection.number = List.range taken := by
  have bound := isolated.arrived
  rw [isolated.departed_eq]
  refine List.ext_getElem (by simpa using bound) fun place inside _ => ?_
  rw [List.getElem_map, List.getElem_take, List.getElem_range]
  exact isolated.numbered place _ (List.getElem?_eq_getElem _)

/-- A connection with a session has arrived, is taken and is not lost. -/
theorem of_mem_sessions (isolated : Isolated origin hosted taken) {connection : Connection}
    (member : connection ∈ hosted.sessions) :
    connection ∈ hosted.arrived ∧ connection.number < taken ∧ connection.number ∉ hosted.lost := by
  obtain ⟨departed, kept⟩ := List.mem_filter.mp member
  have numbered := List.mem_map_of_mem (f := Connection.number) departed
  rw [isolated.numbers_eq] at numbered
  exact ⟨List.mem_of_mem_take departed, List.mem_range.mp numbered, of_decide_eq_true kept⟩

/-- The connections that are lost add nothing to a sum over the turns of connections. -/
theorem sum_sessions (isolated : Isolated origin hosted taken) (value : List (Bool × Turn) → Nat)
    (zero : value [] = 0) :
    (hosted.sessions.map fun connection => value (hosted.turnsOf connection.number)).sum =
      (hosted.departed.map fun connection => value (hosted.turnsOf connection.number)).sum := by
  have split := List.sum_map_filter_add_sum_map_filter_not (fun connection : Connection =>
    connection.number ∉ hosted.lost) (fun connection => value (hosted.turnsOf connection.number))
    hosted.departed
  have none (connection : Connection) (lost : connection ∈ hosted.departed.filter
      fun connection => ¬ connection.number ∉ hosted.lost) :
      value (hosted.turnsOf connection.number) = 0 := by
    have member := of_decide_eq_true (List.mem_filter.mp lost).2
    rw [(isolated.unserved connection.number (not_not.mp member)).2.1, zero]
  rw [List.map_congr_left none, List.map_const', List.sum_replicate, nsmul_zero, add_zero] at split
  exact split

/-- The counters of a server are the sums of what its sessions have counted. -/
theorem counters_eq (isolated : Isolated origin hosted taken) (shared : σ) (counter : Counter) :
    (hosted.pool.counters.get counter).toNat =
      (hosted.sessions.map fun connection =>
        (origin.alone hosted shared connection (hosted.steps connection.number)).2.counted.count
          counter).sum % 2 ^ 64 := by
  have known : ∀ turn ∈ hosted.turns, ∀ number, turn.2.connection = some number →
      number < taken := by
    intro turn member number owner
    by_contra late
    have none_yet := (isolated.untouched number (Nat.le_of_not_lt late)).1
    exact List.not_mem_nil
      (none_yet ▸ List.mem_filter.mpr ⟨member, by simpa using owner⟩ : turn ∈ [])
  have each : ∀ connection ∈ hosted.sessions,
      (origin.alone hosted shared connection (hosted.steps connection.number)).2.counted.count
        counter =
      ((hosted.turnsOf connection.number).flatMap (·.2.effect.counted)).count counter := by
    intro connection member
    rw [origin.alone_eq_solo hosted shared connection isolated.ordered,
      (isolated.follows connection (isolated.of_mem_sessions member).1 shared).counted]
  rw [List.map_congr_left each,
    isolated.sum_sessions (fun turns => (turns.flatMap (·.2.effect.counted)).count counter) rfl,
    isolated.counters, Counters.get_recordAll,
    count_turns hosted.turns taken counter isolated.idle known, ← isolated.numbers_eq, List.map_map]
  have zero : ({} : Counters).get counter = 0 := by cases counter <;> rfl
  rw [zero, UInt64.zero_add, UInt64.toNat_ofNat']
  rfl

/-- When no session has something to count, the counters of a server are the sums of what its
sessions contribute. -/
theorem counters_eq_of_isQuiet (isolated : Isolated origin hosted taken)
    (quiet : hosted.pool.IsQuiet) (shared : σ) (counter : Counter) :
    (hosted.pool.counters.get counter).toNat =
      (hosted.sessions.map fun connection =>
        let alone := origin.alone hosted shared connection (hosted.steps connection.number)
        (alone.1.contribution alone.2).count counter).sum % 2 ^ 64 := by
  rw [isolated.counters_eq shared counter]
  congr 2
  refine List.map_congr_left fun connection member => ?_
  obtain ⟨arrived, number, kept⟩ := isolated.of_mem_sessions member
  have follows := isolated.follows connection arrived shared
  rw [origin.alone_eq_solo hosted shared connection isolated.ordered]
  dsimp only
  rw [Session.contribution]
  obtain ⟨worker, session, serves, same⟩ | concluded | lost := follows.left number
  · rw [← follows.working worker session serves same, quiet worker session serves,
      List.append_nil]
  · rw [Session.owes_of_isOver concluded, List.append_nil]
  · exact absurd lost kept

end Isolated

end Hosted

/-- Each session of a server goes as it would go alone, whatever is shared then. -/
structure Hosted.ServedAlone (origin hosted : Hosted σ τ) (shared : σ) : Prop where
  /-- A session sees a shutdown from its moment on. -/
  shown : ∀ connection ∈ hosted.arrived, hosted.flags connection.number =
    (List.range (hosted.steps connection.number)).map
      fun now => decide (hosted.moment connection.number ≤ now)
  /-- Each client has received the bytes that are sent alone. -/
  received : ∀ connection ∈ hosted.arrived, hosted.received connection.number =
    (origin.alone hosted shared connection (hosted.steps connection.number)).2.sent
  /-- Each session at work is the one that it is alone. -/
  working : ∀ connection ∈ hosted.arrived, ∀ worker session, hosted.pool.Serves worker session →
    session.connection.number = connection.number →
      session = (origin.alone hosted shared connection (hosted.steps connection.number)).1
  /-- A connection waits, or its session is at work, or its session is over, or it is lost. -/
  place : ∀ connection ∈ hosted.arrived,
    let session := (origin.alone hosted shared connection (hosted.steps connection.number)).1
    connection ∈ hosted.pool.waiting ∨ (∃ worker, hosted.pool.Serves worker session) ∨
      session.isOver ∨ connection.number ∈ hosted.lost
  /-- No more connections are lost than attempts were to fail in setting them up. -/
  losses : hosted.lost.length ≤ AcceptFault.losses hosted.faults
  /-- A connection that is lost has no session. -/
  lost : ∀ number ∈ hosted.lost, hosted.steps number = 0 ∧
    ∀ worker session, hosted.pool.Serves worker session → session.connection.number ≠ number
  /-- A session that is over has sent and counted all that it does alone. -/
  ended : ∀ connection ∈ hosted.arrived,
    (origin.alone hosted shared connection (hosted.steps connection.number)).1.isOver →
      ∀ more, origin.alone hosted shared connection (hosted.steps connection.number + more) =
        origin.alone hosted shared connection (hosted.steps connection.number)
  /-- The counters are the sums of what the sessions have counted alone. -/
  counted : ∀ counter, (hosted.pool.counters.get counter).toNat =
    (hosted.sessions.map fun connection =>
      (origin.alone hosted shared connection (hosted.steps connection.number)).2.counted.count
        counter).sum % 2 ^ 64
  /-- If nothing is left to be counted, they are the sums of what the sessions contribute alone. -/
  contributed : hosted.pool.IsQuiet → ∀ counter, (hosted.pool.counters.get counter).toNat =
    (hosted.sessions.map fun connection =>
      let alone := origin.alone hosted shared connection (hosted.steps connection.number)
      (alone.1.contribution alone.2).count counter).sum % 2 ^ 64

/-- What an isolated server has done. -/
theorem Hosted.Isolated.servedAlone {origin hosted : Hosted σ τ} {taken : Nat}
    (isolated : Isolated origin hosted taken) (shared : σ) :
    origin.ServedAlone hosted shared where
  shown connection _ := by
    have flags := flags_eq_moment (hosted.flags connection.number)
      (List.pairwise_map.mpr (isolated.ordered.filter _)) 0
    rw [← List.range_eq_range', Nat.zero_add] at flags
    exact flags
  received connection arrived := by
    have follows := isolated.follows connection arrived shared
    rw [origin.alone_eq_solo hosted shared connection isolated.ordered, ← follows.sent,
      Hosted.received, Turn.sentTo, List.filter_map, List.flatMap_map]
    rfl
  working connection arrived worker session serves own := by
    have follows := isolated.follows connection arrived shared
    rw [follows.working worker session serves own,
      origin.alone_eq_solo hosted shared connection isolated.ordered]
  place connection arrived := isolated.waits_or_works_or_over connection arrived shared
  losses := Nat.le_of_add_right_le isolated.losses
  lost number member := by
    refine ⟨?_, (isolated.unserved number member).2.2⟩
    rw [Hosted.steps, isolated.flags_of_lost member, List.length_nil]
  ended connection _ concluded := origin.alone_of_isOver hosted shared connection concluded
  counted counter := isolated.counters_eq shared counter
  contributed quiet counter := isolated.counters_eq_of_isQuiet quiet shared counter

/-- Whatever the servers of a process do and in whatever order, each session goes as it would go
alone, and the counters of each server are the sums of what its own sessions count. -/
theorem Process.run_servedAlone {process : Process σ τ}
    (starts : ∀ origin ∈ process.servers, ∃ workers,
      origin = .start origin.dispatcher workers origin.coins)
    (alone : ∀ origin ∈ process.servers, origin.dispatcher.provider.AnswersAlone)
    (acts : List (Nat × Act)) {index : Nat} {hosted : Hosted σ τ}
    (found : (process.run acts).servers[index]? = some hosted) :
    ∃ origin, process.servers[index]? = some origin ∧
      ∀ shared, origin.ServedAlone hosted shared := by
  obtain ⟨origin, -, at_index, taken, isolated⟩ := process.run_keeps
    (fun origin hosted => ∃ taken, Hosted.Isolated origin hosted taken)
    (fun origin member => by
      obtain ⟨workers, start⟩ := starts origin member
      rw [start]
      exact ⟨0, Hosted.Isolated.start origin.dispatcher workers origin.coins⟩)
    (fun origin member hosted act shared ⟨_, isolated⟩ =>
      isolated.step (alone origin member) act shared)
    acts found
  exact ⟨origin, at_index, isolated.servedAlone⟩

/-- Two servers share a provider that counts its calls in what is shared and signs with the coins of
the caller; the steps of one of them come between those with which the other begins to serve. -/
theorem Process.run_servedAlone_counting :
    let provider : Provider (Nat × Nat) :=
      ⟨fun _ _ _ (shared, coins) => (.panics "deal", (shared + 1, coins)),
        fun share _ (shared, coins) => (.returns ⟨share.id, .null⟩, (shared + 1, coins + 1)),
        fun _ _ _ (shared, coins) => (.returns false, (shared + 1, coins)), 4⟩
    let process : Process Nat Nat :=
      ⟨[.start ⟨provider, 64⟩ 2 id, .start ⟨provider, 32⟩ 1 id], 0⟩
    let acts : List (Nat × Act) := [(0, .arrive { incoming := [.ready [123, 10]] }),
      (0, .work 0), (1, .work 0), (0, .work 0), (0, .work 0), (0, .work 0), (1, .shutdown),
      (0, .work 0)]
    ∃ hosted, (process.run acts).servers[0]? = some hosted ∧
      ∃ origin, process.servers[0]? = some origin ∧ ∀ shared, origin.ServedAlone hosted shared := by
  intro provider process acts
  have alone : provider.AnswersAlone := by
    rintro (_ | _ | _) shared other coins <;> exact ⟨rfl, rfl⟩
  have valid : 0 < (process.run acts).servers.length := by
    rw [Process.length_run]
    exact Nat.two_pos
  refine ⟨_, List.getElem?_eq_getElem valid, Process.run_servedAlone ?_ ?_ acts
    (List.getElem?_eq_getElem valid)⟩
  · intro origin member
    rcases List.mem_pair.mp member with rfl | rfl
    · exact ⟨2, rfl⟩
    · exact ⟨1, rfl⟩
  · intro origin member
    rcases List.mem_pair.mp member with rfl | rfl
    · exact alone
    · exact alone

end ThresholdDaemon
