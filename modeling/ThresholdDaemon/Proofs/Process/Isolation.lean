import ThresholdDaemon.Proofs.Counters
import ThresholdDaemon.Proofs.Process.Act
import ThresholdDaemon.Proofs.Session.Alone

/-!
# Isolation of sessions

Whatever the servers of a process do and in whatever order, the session of each connection goes
through the steps that it would take if it ran alone, with its own coins and with a shutdown that
shows when it did. This holds because a connection is taken by one worker only, and because the
provider answers each session alone. So the counters of a server count what its own sessions did.
-/
namespace ThresholdDaemon

variable {σ τ : Type}

namespace WorkerPool

/-- The same sessions are at work in two pools. -/
def SameWork (pool other : WorkerPool) : Prop :=
  ∀ worker session, other.Serves worker session ↔ pool.Serves worker session

/-- The sessions at work once a worker is another. -/
theorem serves_setWorker (pool : WorkerPool) {index : Nat} (valid : index < pool.workers.length)
    (behind : Worker) (worker : Nat) (session : Session) :
    (pool.setWorker index behind).Serves worker session ↔
      if worker = index then behind = .serving session else pool.Serves worker session := by
  unfold Serves setWorker
  by_cases same : worker = index
  · obtain rfl := same
    rw [if_pos rfl, List.getElem?_set_self valid, Option.some.injEq]
  · rw [if_neg same, List.getElem?_set_ne (Ne.symm same)]

/-- A worker without a session that gets none leaves the same sessions at work. -/
theorem sameWork_setWorker (pool : WorkerPool) {index : Nat} {before behind : Worker}
    (at_index : pool.workers[index]? = some before) (none_before : before.session? = none)
    (none_behind : behind.session? = none) : pool.SameWork (pool.setWorker index behind) := by
  intro worker session
  obtain ⟨place, -⟩ := List.getElem?_eq_some_iff.mp at_index
  rw [serves_setWorker pool place]
  by_cases same : worker = index
  · obtain rfl := same
    rw [if_pos rfl, Serves, at_index]
    constructor
    · rintro rfl
      exact nomatch none_behind
    · rintro ⟨⟩
      exact nomatch none_before
  · rw [if_neg same]

/-- A worker goes on with a session unless it is over. -/
theorem workerOf_eq_serving {session other : Session} :
    workerOf session = .serving other ↔ session = other ∧ session.isOver = false := by
  unfold workerOf Session.isOver
  cases session.stage <;> simp

/-- What one step of a worker does: it leaves sessions and counters alone and takes no connection but
one that it loses, or it takes the next connection, or it is a step of its session. -/
theorem step_cases (dispatcher : Dispatcher σ) (index : Nat) (pool : WorkerPool) (state : σ) :
    (∃ next log, (pool.step dispatcher index).run state = ((next, { log }), state) ∧
        pool.servedBy index = none ∧ pool.SameWork next ∧
        pool.waiting = (pool.lostBy index).toList ++ next.waiting ∧
        next.counters = pool.counters ∧ next.shutdown = pool.shutdown ∧
        (pool.lostBy index).toList.length + AcceptFault.losses next.faults ≤
          AcceptFault.losses pool.faults) ∨
      (∃ connection last log, (pool.step dispatcher index).run state =
          ((pool.accept.2.setWorker index
            (.serving (Session.accept dispatcher.frameLimit connection)), { log }), state) ∧
        pool.workers[index]? = some (.accepting last) ∧ pool.lostBy index = none ∧
        pool.waiting = connection :: pool.accept.2.waiting) ∨
      ∃ session, pool.Serves index session ∧ pool.lostBy index = none ∧
        (pool.step dispatcher index).run state =
          (let taken := (session.step dispatcher pool.shutdown).run state
          (({ pool.setWorker index (workerOf taken.1.1) with
              counters := pool.counters.recordAll taken.1.2.counted }, taken.1.2), taken.2)) := by
  unfold step servedBy lostBy
  cases working : pool.workers[index]? with
  | none => exact .inl ⟨pool, [], rfl, rfl, fun _ _ => Iff.rfl, rfl, rfl, rfl, by simp⟩
  | some worker =>
    have same (behind : Worker) (none_before : worker.session? = none)
        (none_behind : behind.session? = none) : pool.SameWork (pool.setWorker index behind) :=
      pool.sameWork_setWorker working none_before none_behind
    cases worker with
    | starting => exact .inl ⟨_, _, rfl, rfl, same _ rfl rfl, rfl, rfl, rfl, by simp [setWorker]⟩
    | checking last =>
      cases shutdown : pool.shutdown with
      | true =>
        exact .inl ⟨_, _, rfl, rfl, same _ rfl rfl, rfl, rfl, shutdown, by simp [setWorker]⟩
      | false =>
        exact .inl ⟨_, _, rfl, rfl, same _ rfl rfl, rfl, rfl, shutdown, by simp [setWorker]⟩
    | accepting last =>
      obtain ⟨workers, counters, shutdown⟩ := pool.accept_frame
      have fewer := pool.losses_accept
      have still (behind : Worker) (none_behind : behind.session? = none) :
          pool.SameWork (pool.accept.2.setWorker index behind) := by
        have placed := same behind rfl none_behind
        unfold SameWork Serves setWorker at placed ⊢
        rwa [workers]
      have outcomes := pool.accept_cases
      dsimp only
      generalize pool.accept = outcome at *
      obtain ⟨accepted, later⟩ := outcome
      obtain ⟨connection, rfl, waits⟩ | ⟨other, waits⟩ := outcomes
      · exact .inr (.inl ⟨connection, last, _, rfl, rfl, rfl, waits⟩)
      · left
        cases accepted with
        | nothing => exact ⟨_, _, rfl, rfl, still _ rfl, waits, counters, shutdown, fewer⟩
        | connection connection => exact absurd rfl (other connection)
        | failed error lost =>
          exact ⟨_, _, rfl, rfl, still _ rfl, waits, counters, shutdown, fewer⟩
    | resting last =>
      exact .inl ⟨_, _, rfl, rfl, same _ rfl rfl, rfl, rfl, rfl, by simp [setWorker]⟩
    | serving session => exact .inr (.inr ⟨session, working, rfl, rfl⟩)
    | stopped => exact .inl ⟨pool, [], rfl, rfl, fun _ _ => Iff.rfl, rfl, rfl, rfl, by simp⟩
    | unwound text => exact .inl ⟨pool, [], rfl, rfl, fun _ _ => Iff.rfl, rfl, rfl, rfl, by simp⟩

end WorkerPool

namespace Hosted

/-- What the session of a connection has come to if it ran alone, after one step for each flag that
says whether a shutdown shows. -/
def solo (origin : Hosted σ τ) (shared : σ) (connection : Connection) (flags : List Bool) :
    (Session × Effect) × σ × τ :=
  ((Session.accept origin.dispatcher.frameLimit connection).stepThrough origin.dispatcher flags).run
    (shared, origin.coins connection.number)

/-- What a session comes to alone with one step more, whatever is shared before that step. -/
theorem solo_snoc (origin : Hosted σ τ) (alone : origin.dispatcher.provider.AnswersAlone)
    (shared : σ) (connection : Connection) (flags : List Bool) {shutdown : Bool} {other : σ}
    {next : Session} {effect : Effect} {after : σ} {coins : τ}
    (stepped : ((origin.solo shared connection flags).1.1.step origin.dispatcher shutdown).run
      (other, (origin.solo shared connection flags).2.2) = ((next, effect), (after, coins))) :
    ∃ left, origin.solo shared connection (flags ++ [shutdown]) =
      ((next, (origin.solo shared connection flags).1.2 ++ effect), (left, coins)) := by
  have further : origin.solo shared connection (flags ++ [shutdown]) =
      let before := origin.solo shared connection flags
      let last := (before.1.1.step origin.dispatcher shutdown).run before.2
      ((last.1.1, before.1.2 ++ last.1.2), last.2) :=
    Session.stepThrough_snoc origin.dispatcher flags shutdown _ _
  obtain ⟨same, left⟩ := Session.step_alone alone shutdown (origin.solo shared connection flags).1.1
    (origin.solo shared connection flags).2.1 other (origin.solo shared connection flags).2.2
  rw [stepped] at same left
  rw [further]
  exact ⟨_, Prod.ext (congrArg (fun last => (last.1, _ ++ last.2)) same) (Prod.ext rfl left)⟩

/-- The session of a connection is where it would be if it ran alone; `taken` connections do not
wait any more. -/
structure Follows (hosted : Hosted σ τ) (taken : Nat) (connection : Connection)
    (alone : (Session × Effect) × σ × τ) : Prop where
  /-- The client has received what is sent alone. -/
  sent : (hosted.turnsOf connection.number).flatMap (·.2.effect.sent) = alone.1.2.sent
  /-- What is counted alone has been counted. -/
  counted : (hosted.turnsOf connection.number).flatMap (·.2.effect.counted) = alone.1.2.counted
  /-- The same coins are left. -/
  coins : hosted.coins connection.number = alone.2.2
  /-- A worker that is at work on the session is at the same one. -/
  working : ∀ worker session, hosted.pool.Serves worker session →
    session.connection.number = connection.number → session = alone.1.1
  /-- A session that nobody is at work on is over, unless its connection is lost. -/
  left : connection.number < taken →
    (∃ worker session, hosted.pool.Serves worker session ∧
      session.connection.number = connection.number) ∨ alone.1.1.isOver ∨
        connection.number ∈ hosted.lost

/-- A server whose sessions are where they would be alone. -/
structure Isolated (origin hosted : Hosted σ τ) (taken : Nat) : Prop where
  /-- Frames are handled as at the start. -/
  dispatcher : hosted.dispatcher = origin.dispatcher
  /-- Connections have the numbers of their places. -/
  numbered : ∀ place (connection : Connection), hosted.arrived[place]? = some connection →
    connection.number = place
  /-- Only connections that have arrived are taken. -/
  arrived : taken ≤ hosted.arrived.length
  /-- The connections that are not taken wait. -/
  waiting : hosted.pool.waiting = hosted.arrived.drop taken
  /-- Nothing is done for connections that are not taken. -/
  untouched : ∀ number, taken ≤ number →
    hosted.turnsOf number = [] ∧ hosted.coins number = origin.coins number
  /-- Workers are at work on connections that are taken. -/
  served : ∀ worker session, hosted.pool.Serves worker session → session.connection.number < taken
  /-- No two workers are at work on one connection. -/
  once : ∀ first second session other, hosted.pool.Serves first session →
    hosted.pool.Serves second other → session.connection.number = other.connection.number →
    first = second
  /-- Every session is where it would be alone. -/
  follows : ∀ connection ∈ hosted.arrived, ∀ shared, hosted.Follows taken connection
    (origin.solo shared connection (hosted.flags connection.number))
  /-- Workers that serve nothing count nothing. -/
  idle : ∀ turn ∈ hosted.turns, turn.2.connection = none → turn.2.effect.counted = []
  /-- The counters have counted what the turns say. -/
  counters : hosted.pool.counters =
    Counters.recordAll {} (hosted.turns.flatMap (·.2.effect.counted))
  /-- Once a shutdown shows, it always does. -/
  ordered : hosted.turns.Pairwise fun first second => first.1 = true → second.1 = true
  /-- A shutdown that has shown has been asked for. -/
  shown : ∀ turn ∈ hosted.turns, turn.1 = true → hosted.pool.shutdown = true
  /-- Nothing is done for connections that are lost. -/
  unserved : ∀ number ∈ hosted.lost, number < taken ∧ hosted.turnsOf number = [] ∧
    ∀ worker session, hosted.pool.Serves worker session → session.connection.number ≠ number
  /-- Each connection that is lost has used up a fault. -/
  losses : hosted.lost.length + AcceptFault.losses hosted.pool.faults ≤
    AcceptFault.losses hosted.faults

/-- The turns of a connection when there is one turn more. -/
theorem turnsOf_snoc {hosted later : Hosted σ τ} {turn : Bool × Turn}
    (turns : later.turns = hosted.turns ++ [turn]) (number : Nat) :
    later.turnsOf number =
      hosted.turnsOf number ++ if turn.2.connection = some number then [turn] else [] := by
  rw [turnsOf, turns, List.filter_append, turnsOf]
  by_cases own : turn.2.connection = some number
  · simp [own]
  · simp [own]

/-- A server once a worker has made a step of the session it serves. -/
def afterStep (hosted : Hosted σ τ) (worker : Nat) (session next : Session) (effect : Effect)
    (coins : τ) : Hosted σ τ :=
  { hosted with
    pool := { hosted.pool.setWorker worker (WorkerPool.workerOf next) with
      counters := hosted.pool.counters.recordAll effect.counted }
    coins := fun other =>
      if other = session.connection.number then coins else hosted.coins other
    turns := hosted.turns ++
      [(hosted.pool.shutdown, ⟨worker, some session.connection.number, effect⟩)] }

section AfterStep

variable {hosted : Hosted σ τ} {taken worker : Nat} {connection : Connection}
variable {session next : Session}

/-- Behind a step of a session its worker is at work on what the session has come to, unless that is
over, and every other worker is at work as before. -/
theorem serves_afterStep (serves : hosted.pool.Serves worker session) (effect : Effect) (coins : τ)
    (other : Nat) (found : Session) :
    (hosted.afterStep worker session next effect coins).pool.Serves other found ↔
      if other = worker then next = found ∧ next.isOver = false
      else hosted.pool.Serves other found := by
  obtain ⟨valid, -⟩ := List.getElem?_eq_some_iff.mp serves
  rw [← WorkerPool.workerOf_eq_serving]
  exact hosted.pool.serves_setWorker valid (WorkerPool.workerOf next) other found

/-- Behind a step of a session each worker at work is at work on a connection as before. -/
theorem exists_serves_before (serves : hosted.pool.Serves worker session)
    (number : next.connection.number = session.connection.number) {effect : Effect} {coins : τ}
    {other : Nat} {found : Session}
    (serving : (hosted.afterStep worker session next effect coins).pool.Serves other found) :
    ∃ earlier, hosted.pool.Serves other earlier ∧
      earlier.connection.number = found.connection.number := by
  rw [serves_afterStep serves] at serving
  split at serving
  next same =>
    obtain ⟨rfl, -⟩ := serving
    exact ⟨session, same ▸ serves, number.symm⟩
  next => exact ⟨found, serving, rfl⟩

/-- A step of a session is a turn of its connection and of no other. -/
theorem turnsOf_afterStep (hosted : Hosted σ τ) (worker : Nat) (session next : Session)
    (effect : Effect) (coins : τ) (number : Nat) :
    (hosted.afterStep worker session next effect coins).turnsOf number =
      hosted.turnsOf number ++ if session.connection.number = number then
        [(hosted.pool.shutdown, ⟨worker, some session.connection.number, effect⟩)] else [] := by
  have snoc : (hosted.afterStep worker session next effect coins).turnsOf number =
      hosted.turnsOf number ++ _ := turnsOf_snoc rfl number
  simpa only [Option.some.injEq] using snoc

/-- A connection keeps following its session alone behind a step of the session of another one. -/
theorem Follows.step_other {alone : (Session × Effect) × σ × τ}
    (follows : hosted.Follows taken connection alone)
    (serves : hosted.pool.Serves worker session)
    (number : next.connection.number = session.connection.number)
    (different : session.connection.number ≠ connection.number) (effect : Effect) (coins : τ) :
    (hosted.afterStep worker session next effect coins).Follows taken connection alone := by
  have turns := turnsOf_afterStep hosted worker session next effect coins connection.number
  rw [if_neg different, List.append_nil] at turns
  refine ⟨?_, ?_, (if_neg different.symm).trans follows.coins, ?_, ?_⟩
  · rw [turns]
    exact follows.sent
  · rw [turns]
    exact follows.counted
  · intro other found serving same
    rw [serves_afterStep serves] at serving
    split at serving
    next =>
      obtain ⟨rfl, -⟩ := serving
      exact absurd (number.symm.trans same) different
    next => exact follows.working other found serving same
  · intro earlier
    obtain ⟨other, found, serving, same⟩ | rest := follows.left earlier
    · refine .inl ⟨other, found, (serves_afterStep serves effect coins other found).mpr ?_, same⟩
      rw [if_neg ?_]
      · exact serving
      · rintro rfl
        obtain rfl := Worker.serving.inj (Option.some.inj (serving.symm.trans serves))
        exact different same
    · exact .inr rest

/-- A connection follows its session alone one step further behind a step of it. -/
theorem Follows.step_own {alone : (Session × Effect) × σ × τ}
    (follows : hosted.Follows taken connection alone)
    (serves : hosted.pool.Serves worker session)
    (number : next.connection.number = session.connection.number)
    (own : session.connection.number = connection.number)
    (once : ∀ other found, hosted.pool.Serves other found →
      found.connection.number = connection.number → other = worker)
    (effect : Effect) (coins : τ) (left : σ) :
    (hosted.afterStep worker session next effect coins).Follows taken connection
      ((next, alone.1.2 ++ effect), (left, coins)) := by
  have turns := turnsOf_afterStep hosted worker session next effect coins connection.number
  rw [if_pos own] at turns
  refine ⟨?_, ?_, if_pos own.symm, ?_, ?_⟩
  · rw [turns, List.flatMap_append, follows.sent]
    simp
  · rw [turns, List.flatMap_append, follows.counted]
    simp
  · intro other found serving same
    rw [serves_afterStep serves] at serving
    split at serving
    next => exact serving.1.symm
    next elsewhere => exact absurd (once other found serving same) elsewhere
  · intro earlier
    by_cases concluded : next.isOver
    · exact .inr (.inl concluded)
    · refine .inl ⟨worker, next, (serves_afterStep serves effect coins worker next).mpr ?_,
        number.trans own⟩
      rw [if_pos rfl]
      exact ⟨rfl, Bool.eq_false_iff.mpr concluded⟩

end AfterStep

/-- A server once a worker has taken a connection to serve it. -/
def afterTaking (hosted : Hosted σ τ) (worker : Nat) (connection : Connection) : Hosted σ τ :=
  { hosted with
    pool := hosted.pool.accept.2.setWorker worker
      (.serving (Session.accept hosted.dispatcher.frameLimit connection)) }

/-- Behind the taking of a connection its worker is at work on a session at its start, and every
other worker is at work as before. -/
theorem serves_afterTaking {hosted : Hosted σ τ} {worker : Nat} {before : Worker}
    (present : hosted.pool.workers[worker]? = some before) (connection : Connection)
    (other : Nat) (session : Session) :
    (hosted.afterTaking worker connection).pool.Serves other session ↔
      if other = worker then Session.accept hosted.dispatcher.frameLimit connection = session
      else hosted.pool.Serves other session := by
  obtain ⟨valid, -⟩ := List.getElem?_eq_some_iff.mp present
  have workers := hosted.pool.accept_frame.1
  have placed := hosted.pool.accept.2.serves_setWorker (workers ▸ valid)
    (.serving (Session.accept hosted.dispatcher.frameLimit connection)) other session
  unfold WorkerPool.Serves at placed ⊢
  rwa [workers, Worker.serving.injEq] at placed

/-- A connection keeps following its session alone when the next one is taken, which may be itself:
alone, a session without a step is at its start. -/
theorem Follows.take {hosted : Hosted σ τ} {taken worker : Nat} {connection next : Connection}
    {last : Option ErrorKind} {alone : (Session × Effect) × σ × τ}
    (follows : hosted.Follows taken connection alone)
    (accepts : hosted.pool.workers[worker]? = some (.accepting last)) (number : next.number = taken)
    (start : next.number = connection.number →
      alone.1.1 = Session.accept hosted.dispatcher.frameLimit next) :
    (hosted.afterTaking worker next).Follows (taken + 1) connection alone := by
  have serves := serves_afterTaking accepts next
  refine ⟨follows.sent, follows.counted, follows.coins, ?_, ?_⟩
  · intro other session atWork same
    rw [serves] at atWork
    split at atWork
    · obtain rfl := atWork
      exact (start same).symm
    · exact follows.working other session atWork same
  · intro earlier
    by_cases new : connection.number = taken
    · refine .inl ⟨worker, Session.accept hosted.dispatcher.frameLimit next, ?_,
        number.trans new.symm⟩
      rw [serves, if_pos rfl]
    · obtain ⟨other, session, atWork, same⟩ | rest := follows.left (by omega)
      · refine .inl ⟨other, session, (serves other session).mpr ?_, same⟩
        rw [if_neg ?_]
        · exact atWork
        · rintro rfl
          exact nomatch atWork.symm.trans accepts
      · exact .inr rest

/-- A server once a worker has lost the connection that has waited longest. -/
def afterLosing (hosted : Hosted σ τ) (connection : Connection) (rest : List Connection)
    (faults : List AcceptFault) : Hosted σ τ :=
  { hosted with
    pool := { hosted.pool with waiting := rest, faults }
    lost := hosted.lost ++ [connection.number] }

namespace Isolated

variable {origin hosted : Hosted σ τ} {taken : Nat}

/-- A server that starts is isolated. -/
theorem start (dispatcher : Dispatcher (σ × τ)) (workers : Nat) (coins : Nat → τ) :
    Isolated (.start dispatcher workers coins) (.start dispatcher workers coins) 0 where
  dispatcher := rfl
  numbered := by simp [Hosted.start]
  arrived := Nat.zero_le _
  waiting := rfl
  untouched number _ := ⟨rfl, rfl⟩
  served worker session serves := by
    have same := List.eq_of_mem_replicate (List.mem_of_getElem? serves)
    exact nomatch same
  once first second session other serves := by
    have same := List.eq_of_mem_replicate (List.mem_of_getElem? serves)
    exact nomatch same
  follows := by simp [Hosted.start]
  idle := by simp [Hosted.start]
  counters := rfl
  ordered := .nil
  shown := by simp [Hosted.start]
  unserved := by simp [Hosted.start]
  losses := Nat.le_refl 0

/-- A connection that arrives waits. -/
theorem arrive (isolated : Isolated origin hosted taken) (connection : Connection) :
    Isolated origin (hosted.arrive connection) taken := by
  obtain ⟨dispatcher, numbered, arrived, waiting, untouched, served, once, follows, idle, counters,
    ordered, shown, unserved, losses⟩ := isolated
  refine ⟨dispatcher, ?_, ?_, ?_, untouched, served, once, ?_, idle, counters, ordered, shown,
    unserved, losses⟩
  · intro place found at_place
    change (hosted.arrived ++ [_])[place]? = some found at at_place
    by_cases earlier : place < hosted.arrived.length
    · rw [List.getElem?_append_left earlier] at at_place
      exact numbered place found at_place
    · rw [List.getElem?_append_right (Nat.le_of_not_lt earlier)] at at_place
      obtain ⟨last, same⟩ := List.getElem?_eq_some_iff.mp at_place
      simp only [List.length_singleton] at last
      rw [List.getElem_singleton] at same
      rw [← same]
      show hosted.arrived.length = place
      omega
  · show taken ≤ (hosted.arrived ++ [_]).length
    rw [List.length_append]
    exact Nat.le_add_right_of_le arrived
  · show hosted.pool.waiting ++ [_] = (hosted.arrived ++ [_]).drop taken
    rw [List.drop_append_of_le_length arrived, waiting]
  · intro found member shared
    obtain old | new := List.mem_append.mp member
    · obtain ⟨sent, counted, coins, working, left⟩ := follows found old shared
      exact ⟨sent, counted, coins, working, left⟩
    · obtain rfl := List.mem_singleton.mp new
      obtain ⟨fresh, coins⟩ := untouched hosted.arrived.length arrived
      have none_yet : (hosted.arrive connection).turnsOf hosted.arrived.length = [] := fresh
      refine ⟨?_, ?_, ?_, ?_, ?_⟩
      · simp only [none_yet, flags]
        rfl
      · simp only [none_yet, flags]
        rfl
      · simp only [none_yet, flags]
        exact coins
      · intro worker session serves same
        have earlier := served worker session serves
        simp only at same
        omega
      · intro earlier
        simp only at earlier
        omega

/-- What is only told, a shutdown and faults, changes nothing for the sessions yet. -/
theorem tell (isolated : Isolated origin hosted taken) {shutdown : Bool}
    (asked : hosted.pool.shutdown = true → shutdown = true) (faults : List AcceptFault) :
    Isolated origin { hosted with
      pool := { hosted.pool with shutdown, faults := hosted.pool.faults ++ faults }
      faults := hosted.faults ++ faults } taken := by
  obtain ⟨dispatcher, numbered, arrived, waiting, untouched, served, once, follows, idle, counters,
    ordered, shown, unserved, losses⟩ := isolated
  refine ⟨dispatcher, numbered, arrived, waiting, untouched, served, once, ?_, idle, counters,
    ordered, fun turn member shows => asked (shown turn member shows), unserved, ?_⟩
  · intro found member shared
    obtain ⟨sent, counted, coins, working, left⟩ := follows found member shared
    exact ⟨sent, counted, coins, working, left⟩
  · rw [AcceptFault.losses_append, AcceptFault.losses_append, ← Nat.add_assoc]
    exact Nat.add_le_add_right losses _

/-- A shutdown that is asked for changes nothing for the sessions yet. -/
theorem requestShutdown (isolated : Isolated origin hosted taken) :
    Isolated origin { hosted with pool := hosted.pool.requestShutdown } taken := by
  have told := isolated.tell (fun _ => rfl) []
  rwa [List.append_nil, List.append_nil] at told

/-- A turn of a worker that serves nothing changes nothing for the sessions. -/
theorem idleTurn (isolated : Isolated origin hosted taken) {next : WorkerPool} (worker : Nat)
    (log : List LogEvent) (work : hosted.pool.SameWork next)
    (waits : hosted.pool.waiting = next.waiting) (counts : next.counters = hosted.pool.counters)
    (stops : next.shutdown = hosted.pool.shutdown)
    (fewer : AcceptFault.losses next.faults ≤ AcceptFault.losses hosted.pool.faults) :
    Isolated origin { hosted with
      pool := next
      turns := hosted.turns ++ [(hosted.pool.shutdown, ⟨worker, none, { log }⟩)] } taken := by
  obtain ⟨dispatcher, numbered, arrived, waiting, untouched, served, once, follows, idle, counters,
    ordered, shown, unserved, losses⟩ := isolated
  have turns (number : Nat) : ({ hosted with
      pool := next
      turns := hosted.turns ++ [(hosted.pool.shutdown, ⟨worker, none, { log }⟩)] } :
        Hosted σ τ).turnsOf number = hosted.turnsOf number := by
    rw [turnsOf_snoc rfl]
    simp
  refine ⟨dispatcher, numbered, arrived, waits.symm.trans waiting, ?_, ?_, ?_, ?_, ?_, ?_, ?_, ?_, ?_,
    Nat.le_trans (Nat.add_le_add_left fewer _) losses⟩
  · intro number later
    rw [turns]
    exact untouched number later
  · intro worker session serves
    exact served worker session ((work worker session).mp serves)
  · intro first second session other serves others
    exact once first second session other ((work first session).mp serves)
      ((work second other).mp others)
  · intro found member shared
    obtain ⟨sent, counted, coins, working, left⟩ := follows found member shared
    rw [flags, turns]
    refine ⟨?_, ?_, coins, ?_, ?_⟩
    · rwa [turns]
    · rwa [turns]
    · intro worker session serves
      exact working worker session ((work worker session).mp serves)
    · intro earlier
      obtain ⟨worker, session, serves, same⟩ | rest := left earlier
      · exact .inl ⟨worker, session, (work worker session).mpr serves, same⟩
      · exact .inr rest
  · simpa [or_imp, forall_and] using idle
  · simpa [counts] using counters
  · rw [List.pairwise_append]
    exact ⟨ordered, List.pairwise_singleton _ _, by simpa using shown⟩
  · simp only [stops]
    simpa [or_imp, forall_and] using shown
  · intro number member
    obtain ⟨early, silent, nobody⟩ := unserved number member
    rw [turns]
    exact ⟨early, silent, fun worker session serves =>
      nobody worker session ((work worker session).mp serves)⟩

/-- The connection that has waited longest is the next in the order of arrival. -/
theorem first_waits (isolated : Isolated origin hosted taken) {connection : Connection}
    {rest : List Connection} (waits : hosted.pool.waiting = connection :: rest) :
    connection.number = taken ∧ hosted.arrived[taken]? = some connection ∧
      taken < hosted.arrived.length ∧ rest = hosted.arrived.drop (taken + 1) := by
  have behind : connection :: rest = hosted.arrived.drop taken := waits.symm.trans isolated.waiting
  have at_place : hosted.arrived[taken]? = some connection := by
    rw [← Nat.add_zero taken, ← List.getElem?_drop, ← behind]
    rfl
  obtain ⟨place, -⟩ := List.getElem?_eq_some_iff.mp at_place
  refine ⟨isolated.numbered taken connection at_place, at_place, place, ?_⟩
  rw [← List.tail_drop, ← behind, List.tail_cons]

/-- The connection that has waited longest is taken by a worker that had none. -/
theorem take (isolated : Isolated origin hosted taken) {worker : Nat} {connection : Connection}
    {last : Option ErrorKind} (accepts : hosted.pool.workers[worker]? = some (.accepting last))
    (kept : hosted.pool.lostBy worker = none)
    (waits : hosted.pool.waiting = connection :: hosted.pool.accept.2.waiting) :
    Isolated origin (hosted.afterTaking worker connection) (taken + 1) := by
  obtain ⟨number, at_place, place, behind⟩ := isolated.first_waits waits
  obtain ⟨dispatcher, numbered, arrived, waiting, untouched, served, once, follows, idle, counters,
    ordered, shown, unserved, losses⟩ := isolated
  obtain ⟨-, counts, stops⟩ := hosted.pool.accept_frame
  have serves := serves_afterTaking accepts connection
  have fewer : AcceptFault.losses hosted.pool.accept.2.faults ≤
      AcceptFault.losses hosted.pool.faults := by
    have none : hosted.pool.accept.1.lost? = none := by
      unfold WorkerPool.lostBy at kept
      rwa [accepts] at kept
    have uses := hosted.pool.losses_accept
    rwa [none, Option.toList_none, List.length_nil, Nat.zero_add] at uses
  refine ⟨dispatcher, numbered, place, behind, ?_, ?_, ?_, ?_, idle, counts.trans counters, ordered,
    fun turn member shows => stops.trans (shown turn member shows), ?_,
    Nat.le_trans (Nat.add_le_add_left fewer _) losses⟩
  · intro other later
    exact untouched other (Nat.le_of_succ_le later)
  · intro other session found
    rw [serves] at found
    split at found
    · obtain rfl := found
      exact Nat.lt_succ_of_le (Nat.le_of_eq number)
    · exact Nat.lt_succ_of_lt (served other session found)
  · intro first second session other found others same
    rw [serves] at found others
    -- The connection just taken has a number that no other session has.
    split at found <;> split at others
    · omega
    · obtain rfl := found
      have earlier := served second other others
      change connection.number = other.connection.number at same
      omega
    · obtain rfl := others
      have earlier := served first session found
      change session.connection.number = connection.number at same
      omega
    · exact once first second session other found others same
  · intro found member shared
    refine (follows found member shared).take accepts number ?_
    intro same
    obtain ⟨found_place, found_at⟩ := List.getElem?_of_mem member
    obtain rfl := numbered found_place found found_at
    obtain rfl : found = connection := by
      have both := (congrArg (hosted.arrived[·]?) (same.symm.trans number)).symm.trans found_at
      exact Option.some.inj (both.symm.trans at_place)
    have none_yet : hosted.turnsOf found.number = [] :=
      (untouched found.number (Nat.le_of_eq number.symm)).1
    rw [dispatcher, flags, none_yet]
    rfl
  · intro other member
    obtain ⟨early, silent, nobody⟩ := unserved other member
    refine ⟨Nat.lt_succ_of_lt early, silent, fun place session found => ?_⟩
    rw [serves] at found
    split at found
    · obtain rfl := found
      rintro rfl
      exact Nat.ne_of_lt early number
    · exact nobody place session found

/-- The connection that has waited longest is lost. -/
theorem lose (isolated : Isolated origin hosted taken) {connection : Connection}
    {rest : List Connection} {faults : List AcceptFault}
    (waits : hosted.pool.waiting = connection :: rest)
    (fewer : 1 + AcceptFault.losses faults ≤ AcceptFault.losses hosted.pool.faults) :
    Isolated origin (hosted.afterLosing connection rest faults) (taken + 1) := by
  obtain ⟨number, at_place, place, behind⟩ := isolated.first_waits waits
  obtain ⟨dispatcher, numbered, arrived, waiting, untouched, served, once, follows, idle, counters,
    ordered, shown, unserved, losses⟩ := isolated
  refine ⟨dispatcher, numbered, place, behind, ?_, ?_, once, ?_, idle, counters, ordered, shown, ?_,
    ?_⟩
  · intro other later
    exact untouched other (Nat.le_of_succ_le later)
  · intro other session found
    exact Nat.lt_succ_of_lt (served other session found)
  · intro found member shared
    obtain ⟨sent, counted, coins, working, left⟩ := follows found member shared
    refine ⟨sent, counted, coins, working, fun earlier => ?_⟩
    by_cases new : found.number = taken
    · refine .inr (.inr (List.mem_append_right _ ?_))
      rw [new, number]
      exact List.mem_singleton_self taken
    · have before := left (by omega)
      exact before.imp_right (Or.imp_right (List.mem_append_left _))
  · intro other member
    rcases List.mem_append.mp member with before | now
    · obtain ⟨early, silent, nobody⟩ := unserved other before
      exact ⟨Nat.lt_succ_of_lt early, silent, nobody⟩
    · obtain rfl : other = taken := (List.mem_singleton.mp now).trans number
      refine ⟨Nat.lt_succ_self other, (untouched other (Nat.le_refl other)).1, ?_⟩
      exact fun worker session serves => Nat.ne_of_lt (served worker session serves)
  · have more : (hosted.lost ++ [connection.number]).length = hosted.lost.length + 1 :=
      List.length_append
    show (hosted.lost ++ [connection.number]).length + AcceptFault.losses faults ≤
      AcceptFault.losses hosted.faults
    omega

/-- A step of a session is the one that it takes alone. -/
theorem serveTurn (isolated : Isolated origin hosted taken)
    (alone : origin.dispatcher.provider.AnswersAlone) {worker : Nat} {session : Session}
    (serves : hosted.pool.Serves worker session) (shared : σ) {next : Session} {effect : Effect}
    {after : σ} {coins : τ}
    (stepped : (session.step hosted.dispatcher hosted.pool.shutdown).run
      (shared, hosted.coins session.connection.number) = ((next, effect), (after, coins))) :
    Isolated origin (hosted.afterStep worker session next effect coins) taken := by
  obtain ⟨dispatcher, numbered, arrived, waiting, untouched, served, once, follows, idle, counters,
    ordered, shown, unserved, losses⟩ := isolated
  have number : next.connection.number = session.connection.number := by
    have kept := session.step_number hosted.dispatcher hosted.pool.shutdown
      (shared, hosted.coins session.connection.number)
    rwa [stepped] at kept
  have turns := turnsOf_afterStep hosted worker session next effect coins
  refine ⟨dispatcher, numbered, arrived, waiting, ?_, ?_, ?_, ?_, ?_, ?_, ?_, ?_, ?_, losses⟩
  · intro other later
    have different : other ≠ session.connection.number := by
      have earlier := served worker session serves
      omega
    obtain ⟨fresh, left⟩ := untouched other later
    refine ⟨?_, (if_neg different).trans left⟩
    rw [turns, fresh, List.nil_append, if_neg different.symm]
  · intro other found serving
    obtain ⟨earlier, earlierServes, same⟩ := exists_serves_before serves number serving
    exact same ▸ served other earlier earlierServes
  · intro first second found other serving others same
    obtain ⟨_, firstServes, firstSame⟩ := exists_serves_before serves number serving
    obtain ⟨_, secondServes, secondSame⟩ := exists_serves_before serves number others
    exact once first second _ _ firstServes secondServes
      (firstSame.trans (same.trans secondSame.symm))
  · intro found member any
    have before := follows found member any
    rw [flags, turns, List.map_append]
    -- The session of this connection goes one step further alone too; the others stand still.
    by_cases own : session.connection.number = found.number
    · rw [if_pos own]
      obtain ⟨left, further⟩ := origin.solo_snoc alone any found (hosted.flags found.number)
        (by rw [← before.working worker session serves own, ← dispatcher, ← before.coins, ← own]
            exact stepped)
      have flagged : (hosted.turnsOf found.number).map Prod.fst ++
          [(hosted.pool.shutdown,
            (⟨worker, some session.connection.number, effect⟩ : Turn))].map Prod.fst =
          hosted.flags found.number ++ [hosted.pool.shutdown] := rfl
      rw [flagged, further]
      refine before.step_own serves number own ?_ effect coins left
      intro other working serving same
      exact once other worker working session serving serves (same.trans own.symm)
    · rw [if_neg own, List.map_nil, List.append_nil]
      exact before.step_other serves number own effect coins
  · simpa [afterStep, or_imp, forall_and] using idle
  · show hosted.pool.counters.recordAll effect.counted = _
    rw [counters, ← Counters.recordAll_append, afterStep, List.flatMap_append]
    simp
  · rw [afterStep, List.pairwise_append]
    exact ⟨ordered, List.pairwise_singleton _ _, by simpa using shown⟩
  · show ∀ turn ∈ hosted.turns ++ [_], turn.1 = true → hosted.pool.shutdown = true
    simpa [or_imp, forall_and] using shown
  · intro other member
    obtain ⟨early, silent, nobody⟩ := unserved other member
    refine ⟨early, ?_, fun place found serving same => ?_⟩
    · rw [turns, silent, List.nil_append, if_neg (nobody worker session serves)]
    · obtain ⟨earlier, earlierServes, alike⟩ := exists_serves_before serves number serving
      exact nobody place earlier earlierServes (alike.trans same)

/-- A step of a worker keeps a server isolated. -/
theorem work (isolated : Isolated origin hosted taken)
    (alone : origin.dispatcher.provider.AnswersAlone) (worker : Nat) (shared : σ) :
    ∃ taken, Isolated origin ((hosted.work worker).run shared).1 taken := by
  -- Coins that are put back as they were.
  have unused (number : Nat) :
      (fun other => if other = number then hosted.coins number else hosted.coins other) =
        hosted.coins := by
    funext other
    split
    · next same => rw [same]
    · rfl
  have unfolded : ((hosted.work worker).run shared).1 =
      let stepped := (hosted.pool.step hosted.dispatcher worker).run
        (shared, hosted.coins ((hosted.pool.servedBy worker).getD 0))
      { hosted with
        pool := stepped.1.1
        coins := fun other =>
          if other = (hosted.pool.servedBy worker).getD 0 then stepped.2.2 else hosted.coins other
        turns := hosted.turns ++
          [(hosted.pool.shutdown, ⟨worker, hosted.pool.servedBy worker, stepped.1.2⟩)]
        lost := hosted.lost ++ ((hosted.pool.lostBy worker).map (·.number)).toList } := rfl
  obtain ⟨next, log, stepped, unserved, work, waits, counts, stops, fewer⟩ |
    ⟨connection, last, log, stepped, accepts, kept, waits⟩ | ⟨session, serves, kept, stepped⟩ :=
    hosted.pool.step_cases hosted.dispatcher worker
      (shared, hosted.coins ((hosted.pool.servedBy worker).getD 0))
  · rw [unfolded, stepped, unserved]
    dsimp only
    rw [unused]
    cases lost : hosted.pool.lostBy worker with
    | none =>
      rw [lost] at waits fewer
      refine ⟨taken, ?_⟩
      rw [Option.map_none, Option.toList_none, List.append_nil]
      exact isolated.idleTurn worker log work waits counts stops (by simpa using fewer)
    | some connection =>
      rw [lost] at waits fewer
      -- The connection is lost, and then the turn is one that serves nothing.
      exact ⟨taken + 1, (isolated.lose waits fewer).idleTurn worker log work rfl counts stops
        (Nat.le_refl _)⟩
  · have unserved : hosted.pool.servedBy worker = none := by
      simp [WorkerPool.servedBy, accepts, Worker.session?]
    refine ⟨taken + 1, ?_⟩
    rw [unfolded, stepped, unserved, kept]
    dsimp only
    rw [unused, Option.map_none, Option.toList_none, List.append_nil]
    -- The turn is one that serves nothing, and then the connection is taken.
    exact (isolated.idleTurn worker log (fun _ _ => Iff.rfl) rfl rfl rfl (Nat.le_refl _)).take
      accepts kept waits
  · have served : hosted.pool.servedBy worker = some session.connection.number := by
      simp [WorkerPool.servedBy, show hosted.pool.workers[worker]? = _ from serves,
        Worker.session?]
    refine ⟨taken, ?_⟩
    rw [unfolded, stepped, served, kept, Option.map_none, Option.toList_none, List.append_nil]
    exact isolated.serveTurn alone serves shared rfl

/-- Whatever a server does keeps it isolated. -/
theorem step (isolated : Isolated origin hosted taken)
    (alone : origin.dispatcher.provider.AnswersAlone) (act : Act) (shared : σ) :
    ∃ taken, Isolated origin ((hosted.step act).run shared).1 taken := by
  cases act with
  | arrive connection => exact ⟨taken, isolated.arrive connection⟩
  | shutdown => exact ⟨taken, isolated.requestShutdown⟩
  | hinder fault => exact ⟨taken, isolated.tell id [fault]⟩
  | work worker => exact isolated.work alone worker shared

end Isolated

end Hosted

end ThresholdDaemon
