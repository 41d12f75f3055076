import Mathlib.Data.List.Dedup
import ThresholdDaemon.Proofs.Pool.History
import ThresholdDaemon.Proofs.Session.Stride

/-!
# Every connection is served once

Whatever happens to the workers of a server, each connection waits, is served by one worker, has been
served, or is lost because setting it up has failed. A worker that has taken a connection begins its
session at once unless it loses it, and then the session is counted. Whoever joins the workers comes
to an end only behind all of them.
-/
namespace ThresholdDaemon

variable {σ : Type}

namespace Session.Goes

variable {answers : Bytes → Option Frame} {asked : Bool} {before after : Stage} {effect : Effect}

/-- A session begins once. -/
theorem not_accepted (goes : Goes answers asked before after effect) : after ≠ .accepted := by
  intro begins
  cases goes with
  | rests done =>
    subst begins
    cases done
  | _ => cases begins

/-- A session counts itself at its beginning only. -/
theorem not_counting_session (goes : Goes answers asked before after effect) (last : Bool) :
    after ≠ .counting .session last := by
  intro counts
  cases goes with
  | rests done =>
    subst counts
    cases done
  | _ => cases counts

/-- How often a session counts itself in one step. -/
theorem count_session (goes : Goes answers asked before after effect)
    (modest : ∀ last, before ≠ .counting .session last) :
    effect.counted.count .session = if before = .accepted then 1 else 0 := by
  cases goes with
  | counts counter =>
    cases counter with
    | session => exact absurd rfl (modest false)
    | _ => rfl
  | concludes counter =>
    cases counter with
    | session => exact absurd rfl (modest true)
    | _ => rfl
  | rests done =>
    refine (if_neg fun begins => ?_).symm
    subst begins
    cases done
  | _ => rfl

end Session.Goes

namespace WorkerPool

variable {pool next : WorkerPool} {worker index number : Nat}

/-- A worker is about to begin the session of a connection. -/
def IsBeginning (pool : WorkerPool) (worker number : Nat) : Prop :=
  ∃ session, pool.sessionOf worker = some session ∧ session.connection.number = number ∧
    session.stage = .accepted

/-- Whether a worker is about to begin a session is up to the connection and the stage of what it
serves. -/
theorem isBeginning_congr
    (same : (next.sessionOf worker).map (fun session =>
        (session.connection.number, session.stage)) =
      (pool.sessionOf worker).map fun session => (session.connection.number, session.stage)) :
    next.IsBeginning worker number ↔ pool.IsBeginning worker number := by
  have reads (pool : WorkerPool) : pool.IsBeginning worker number ↔
      (pool.sessionOf worker).map (fun session => (session.connection.number, session.stage)) =
        some (number, .accepted) := by
    simp [IsBeginning, Option.map_eq_some_iff]
  rw [reads, reads, same]

/-- No worker and no act changes a worker that is over. -/
theorem undergo_of_isOver (dispatcher : Dispatcher σ) {act : PoolAct σ} {done : Worker}
    (there : pool.workers[worker]? = some done) (ending : done.isOver = true) :
    (pool.undergo dispatcher act).workers[worker]? = some done := by
  cases act with
  | peer number act =>
    refine (workers_changeConnection pool number act.change worker).trans ?_
    rw [there]
    cases done <;> first | rfl | cases ending
  | work index state =>
    by_cases same : worker = index
    · subst same
      show ((pool.step dispatcher worker).run state).1.1.workers[worker]? = some done
      unfold step
      rw [there]
      cases done <;> first | exact there | cases ending
    · obtain ⟨-, -, others⟩ := step_frame dispatcher index pool state
      exact (others worker same).trans there
  | _ => exact there

/-- No worker comes or goes. -/
theorem length_undergo (dispatcher : Dispatcher σ) (pool : WorkerPool) (act : PoolAct σ) :
    (pool.undergo dispatcher act).workers.length = pool.workers.length := by
  cases act with
  | peer number act => simp [undergo, changeConnection]
  | work index state => exact (step_frame dispatcher index pool state).2.1
  | _ => rfl

end WorkerPool

/-- Where a connection can be. -/
inductive Whereabouts where
  /-- It waits. -/
  | waiting
  /-- A worker serves it. -/
  | served (worker : Nat)
  /-- It has been served. -/
  | finished
  /-- It has been taken, and setting it up has failed. -/
  | lost

namespace PoolHistory

variable {history next : PoolHistory σ} {worker number : Nat}

/-- A connection is at a place. -/
def IsAt (history : PoolHistory σ) (number : Nat) : Whereabouts → Prop
  | .waiting => ∃ connection ∈ history.pool.waiting, connection.number = number
  | .served worker => history.pool.servedBy worker = some number
  | .finished => number ∈ history.finished
  | .lost => number ∈ history.lost

/-- A connection that has been taken does not wait. -/
theorem Sound.not_isAt_waiting (sound : history.Sound)
    (before : number ∈ history.taken.map Prod.snd) : ¬ history.IsAt number .waiting := by
  rintro ⟨connection, waits, rfl⟩
  exact sound.not_taken waits before

/-- A connection that has arrived is at one place. -/
theorem Sound.existsUnique_isAt (sound : history.Sound) (arrived : number < history.arrivals) :
    ∃! place, history.IsAt number place := by
  have there : number ∈ history.taken.map Prod.snd ++ history.pool.waiting.map (·.number) :=
    sound.ordered ▸ List.mem_range.mpr arrived
  rcases List.mem_append.mp there with before | behind
  · obtain ⟨⟨worker, _⟩, member, rfl⟩ := List.mem_map.mp before
    rcases sound.placed worker _ member with serves | ending | gone
    · refine ⟨.served worker, serves, fun place is => ?_⟩
      cases place with
      | waiting => exact absurd is (sound.not_isAt_waiting before)
      | served other => exact congrArg Whereabouts.served (sound.once is serves)
      | finished => exact absurd (.inl is) (sound.working worker _ serves).2
      | lost => exact absurd (.inr is) (sound.working worker _ serves).2
    · refine ⟨.finished, ending, fun place is => ?_⟩
      cases place with
      | waiting => exact absurd is (sound.not_isAt_waiting before)
      | served other => exact absurd (.inl ending) (sound.working other _ is).2
      | finished => rfl
      | lost => exact absurd is (sound.apart _ ending)
    · refine ⟨.lost, gone, fun place is => ?_⟩
      cases place with
      | waiting => exact absurd is (sound.not_isAt_waiting before)
      | served other => exact absurd (.inr gone) (sound.working other _ is).2
      | finished => exact absurd gone (sound.apart _ is)
      | lost => rfl
  · obtain ⟨connection, waits, rfl⟩ := List.mem_map.mp behind
    refine ⟨.waiting, ⟨connection, waits, rfl⟩, fun place is => ?_⟩
    cases place with
    | waiting => rfl
    | served other =>
      have before := List.mem_map_of_mem (f := Prod.snd) (sound.working other _ is).1
      exact absurd before (sound.not_taken waits)
    | finished => exact absurd (.inl is) (sound.not_isDone waits)
    | lost => exact absurd (.inr is) (sound.not_isDone waits)

/-- The sessions that have begun are those of the connections that have been taken and not been lost,
unless they are about to begin, and each has been counted. -/
structure Counted (history : PoolHistory σ) : Prop where
  /-- Which sessions have begun. -/
  begun : ∀ worker number, (worker, number) ∈ history.handed ↔
    (worker, number) ∈ history.taken ∧ number ∉ history.lost ∧
      ¬ history.pool.IsBeginning worker number
  /-- No session begins twice. -/
  once : history.handed.Nodup
  /-- No session counts itself again. -/
  modest : ∀ worker session, history.pool.sessionOf worker = some session →
    ∀ last, session.stage ≠ .counting .session last
  /-- The sessions that have begun have been counted. -/
  counted : history.pool.counters.sessions = UInt64.ofNat history.handed.length

namespace Counted

/-- No session has begun of a pool to which nothing has happened. -/
theorem start (count : Nat) : (PoolHistory.start count : PoolHistory σ).Counted where
  begun worker number := by
    constructor
    · intro member
      cases member
    · rintro ⟨member, -⟩
      cases member
  once := .nil
  modest worker session found := by
    have same := List.eq_of_mem_replicate
      (List.mem_of_getElem? (WorkerPool.sessionOf_eq_some.mp found))
    cases same
  counted := rfl

/-- What leaves the sessions at their stages begins none. -/
theorem keep (counts : history.Counted) (taken : next.taken = history.taken)
    (handed : next.handed = history.handed) (lost : next.lost = history.lost)
    (counters : next.pool.counters = history.pool.counters)
    (sessions : ∀ worker, (next.pool.sessionOf worker).map (fun session =>
        (session.connection.number, session.stage)) =
      (history.pool.sessionOf worker).map fun session =>
        (session.connection.number, session.stage)) : next.Counted := by
  have back {worker : Nat} {session : Session} (found : next.pool.sessionOf worker = some session) :
      ∃ before, history.pool.sessionOf worker = some before ∧
        before.connection.number = session.connection.number ∧ before.stage = session.stage := by
    have same := sessions worker
    rw [found] at same
    obtain ⟨before, there, alike⟩ := Option.map_eq_some_iff.mp same.symm
    exact ⟨before, there, congrArg Prod.fst alike, congrArg Prod.snd alike⟩
  refine ⟨fun worker number => ?_, handed ▸ counts.once, fun worker session found => ?_, ?_⟩
  · rw [taken, handed, lost, WorkerPool.isBeginning_congr (sessions worker)]
    exact counts.begun worker number
  · obtain ⟨before, there, -, stage⟩ := back found
    rw [← stage]
    exact counts.modest worker before there
  · rw [counters, handed]
    exact counts.counted

/-- A worker that takes a connection is about to begin its session. -/
theorem take (counts : history.Counted) (sound : history.Sound) {connection : Connection}
    {limit : Nat} (free : history.pool.sessionOf worker = none)
    (sessions : next.pool.sessionOf = Function.update history.pool.sessionOf worker
      (some (.accept limit connection)))
    (waits : connection ∈ history.pool.waiting)
    (taken : next.taken = history.taken ++ [(worker, connection.number)])
    (handed : next.handed = history.handed) (lost : next.lost = history.lost)
    (counters : next.pool.counters = history.pool.counters) : next.Counted := by
  have others {other : Nat} (apart : other ≠ worker) :
      next.pool.sessionOf other = history.pool.sessionOf other :=
    (congrFun sessions other).trans (Function.update_of_ne apart ..)
  have own : next.pool.sessionOf worker = some (.accept limit connection) :=
    (congrFun sessions worker).trans (Function.update_self ..)
  refine ⟨fun other number => ?_, handed ▸ counts.once, fun other session found => ?_, ?_⟩
  · have before := counts.begun other number
    rw [taken, handed, lost, before, List.mem_append, List.mem_singleton]
    by_cases same : other = worker
    · subst same
      have idle : ¬ history.pool.IsBeginning other number := by
        rintro ⟨session, found, -⟩
        cases free.symm.trans found
      have begins : next.pool.IsBeginning other number ↔ connection.number = number := by
        simp [WorkerPool.IsBeginning, own, Session.accept]
      rw [begins]
      constructor
      · rintro ⟨member, kept, -⟩
        refine ⟨.inl member, kept, ?_⟩
        rintro rfl
        exact sound.not_taken waits (List.mem_map_of_mem member)
      · rintro ⟨member | new, kept, apart⟩
        · exact ⟨member, kept, idle⟩
        · exact absurd (congrArg Prod.snd new).symm apart
    · rw [WorkerPool.isBeginning_congr (congrArg (Option.map _) (others same))]
      constructor
      · rintro ⟨member, idle⟩
        exact ⟨.inl member, idle⟩
      · rintro ⟨member | new, idle⟩
        · exact ⟨member, idle⟩
        · exact absurd (congrArg Prod.fst new) same
  · by_cases same : other = worker
    · subst same
      obtain rfl := Option.some.inj (own.symm.trans found)
      intro last counts
      cases counts
    · exact counts.modest other session ((others same).symm.trans found)
  · rw [counters, handed]
    exact counts.counted

/-- A worker that loses a connection begins no session. -/
theorem lose (counts : history.Counted) (sound : history.Sound) {connection : Connection}
    (sessions : next.pool.sessionOf = history.pool.sessionOf)
    (waits : connection ∈ history.pool.waiting)
    (taken : next.taken = history.taken ++ [(worker, connection.number)])
    (handed : next.handed = history.handed)
    (lost : next.lost = history.lost ++ [connection.number])
    (counters : next.pool.counters = history.pool.counters) : next.Counted := by
  refine ⟨fun other number => ?_, handed ▸ counts.once, fun other session found => ?_, ?_⟩
  · have before := counts.begun other number
    have begins : next.pool.IsBeginning other number ↔ history.pool.IsBeginning other number :=
      WorkerPool.isBeginning_congr (congrArg (Option.map _) (congrFun sessions other))
    rw [taken, handed, lost, begins, before, List.mem_append, List.mem_append]
    constructor
    · rintro ⟨member, kept, idle⟩
      refine ⟨.inl member, ?_, idle⟩
      rintro (gone | now)
      · exact kept gone
      · rw [List.mem_singleton.mp now] at member
        exact sound.not_taken waits (List.mem_map_of_mem member)
    · rintro ⟨member | new, kept, idle⟩
      · exact ⟨member, fun gone => kept (.inl gone), idle⟩
      · have same : number = connection.number := congrArg Prod.snd (List.mem_singleton.mp new)
        exact absurd (.inr (List.mem_singleton.mpr same)) kept
  · rw [sessions] at found
    exact counts.modest other session found
  · rw [counters, handed]
    exact counts.counted

/-- A session that takes a step begins if it has not begun. -/
theorem stride (counts : history.Counted) (sound : history.Sound) {session taken : Session}
    {effect : Effect} {answers : Bytes → Option Frame} {asked : Bool}
    (goes : Session.Goes answers asked session.stage taken.stage effect)
    (serves : history.pool.sessionOf worker = some session)
    (sessions : next.pool.sessionOf = Function.update history.pool.sessionOf worker
      (WorkerPool.leftOf taken))
    (same_taken : next.taken = history.taken)
    (handed : next.handed = history.handed ++
      if session.stage = .accepted then [(worker, session.connection.number)] else [])
    (lost : next.lost = history.lost)
    (counters : next.pool.counters = history.pool.counters.recordAll effect.counted) :
    next.Counted := by
  have others {other : Nat} (apart : other ≠ worker) :
      next.pool.sessionOf other = history.pool.sessionOf other :=
    (congrFun sessions other).trans (Function.update_of_ne apart ..)
  have idle (number : Nat) : ¬ next.pool.IsBeginning worker number := by
    rintro ⟨left, found, -, begins⟩
    rcases WorkerPool.sessionOf_of_leftOf sessions found with ⟨-, rfl⟩ | ⟨apart, -⟩
    · exact goes.not_accepted begins
    · exact apart rfl
  have began (number : Nat) : history.pool.IsBeginning worker number ↔
      session.connection.number = number ∧ session.stage = .accepted := by
    simp [WorkerPool.IsBeginning, serves]
  obtain ⟨mine, going⟩ := sound.working worker _ (congrArg (Option.map _) serves)
  refine ⟨fun other number => ?_, ?_, fun other left found => ?_, ?_⟩
  · have before := counts.begun other number
    rw [same_taken, handed, lost, List.mem_append, before]
    by_cases same : other = worker
    · subst same
      rw [began]
      constructor
      · rintro (⟨member, kept, -⟩ | new)
        · exact ⟨member, kept, idle number⟩
        · split at new
          · obtain ⟨-, rfl⟩ := Prod.mk.inj (List.mem_singleton.mp new)
            exact ⟨mine, fun gone => going (.inr gone), idle _⟩
          · cases new
      · rintro ⟨member, kept, -⟩
        by_cases begins : session.connection.number = number ∧ session.stage = .accepted
        · obtain ⟨rfl, accepted⟩ := begins
          exact .inr (by simp [accepted])
        · exact .inl ⟨member, kept, begins⟩
    · rw [WorkerPool.isBeginning_congr (congrArg (Option.map _) (others same))]
      constructor
      · rintro (before | new)
        · exact before
        · split at new
          · exact absurd (congrArg Prod.fst (List.mem_singleton.mp new)) same
          · cases new
      · exact .inl
  · rw [handed]
    split
    next begins =>
      refine List.nodup_append.mpr ⟨counts.once, List.nodup_singleton _, ?_⟩
      rintro pair member _ new rfl
      rw [List.mem_singleton.mp new] at member
      exact ((counts.begun _ _).mp member).2.2 ((began _).mpr ⟨rfl, begins⟩)
    next => simpa using counts.once
  · rcases WorkerPool.sessionOf_of_leftOf sessions found with ⟨-, rfl⟩ | ⟨-, before⟩
    · exact goes.not_counting_session
    · exact counts.modest other left before
  · have total := Counters.get_recordAll history.pool.counters effect.counted .session
    have one := goes.count_session (counts.modest worker session serves)
    show next.pool.counters.get .session = _
    rw [counters, total, one, handed]
    show history.pool.counters.sessions + _ = _
    rw [counts.counted]
    split <;> simp

/-- A step of a worker keeps what is counted. -/
theorem work (counts : history.Counted) (sound : history.Sound) (dispatcher : Dispatcher σ)
    (worker : Nat) (state : σ) : (history.step dispatcher (.work worker state)).Counted := by
  cases history.pool.works_step dispatcher worker state with
  | idles free sessions waiting counters =>
    obtain ⟨taken, handed, -, lost⟩ := lists_of_free dispatcher free state
    have gone : (history.step dispatcher (.work worker state)).pool.sessionOf worker = none :=
      (congrFun sessions worker).trans free
    rw [gone] at taken
    cases losing : history.pool.lostBy worker with
    | none =>
      rw [losing] at taken lost
      exact counts.keep (taken.trans (List.append_nil _)) handed (lost.trans (List.append_nil _))
        counters fun other => congrArg (Option.map _) (congrFun sessions other)
    | some connection =>
      rw [losing] at taken lost waiting
      exact counts.lose sound sessions (waiting ▸ List.mem_cons_self) taken handed lost counters
  | takes connection free kept sessions waiting counters =>
    obtain ⟨taken, handed, -, lost⟩ := lists_of_free dispatcher free state
    have now : (history.step dispatcher (.work worker state)).pool.sessionOf worker =
        some (.accept dispatcher.frameLimit connection) :=
      (congrFun sessions worker).trans (Function.update_self ..)
    rw [now] at taken
    rw [kept] at lost
    exact counts.take sound free sessions (waiting ▸ List.mem_cons_self) taken handed
      (lost.trans (List.append_nil _)) counters
  | strides session next effect stepped serves kept sessions waiting counters =>
    obtain ⟨taken, handed, -, lost⟩ := lists_of_serves dispatcher serves kept state
    have goes := session.goes_step dispatcher history.pool.shutdown state
    rw [stepped] at goes
    exact counts.stride sound goes serves sessions taken handed lost counters

/-- Every act keeps what is counted. -/
theorem step (counts : history.Counted) (sound : history.Sound) (dispatcher : Dispatcher σ)
    (act : PoolAct σ) : (history.step dispatcher act).Counted := by
  cases act with
  | peer number act =>
    refine counts.keep rfl rfl rfl rfl fun worker => ?_
    show ((history.pool.changeConnection number act.change).sessionOf worker).map _ = _
    rw [WorkerPool.sessionOf_changeConnection, Option.map_map]
    congr 1
    funext session
    simp only [Function.comp, WorkerPool.reconnect]
    split
    · rw [act.number_change]
    · rfl
  | work worker state => exact counts.work sound dispatcher worker state
  | _ => exact counts.keep rfl rfl rfl rfl fun _ => rfl

end Counted

/-- The workers that have been joined are over, and it is known whether one of them had unwound. -/
structure Joined (history : PoolHistory σ) : Prop where
  /-- The workers that have been joined are over. -/
  ending : ∀ index < history.joining.joined, ∃ worker, history.pool.workers[index]? = some worker ∧
    worker.isOver = true
  /-- One of them had unwound. -/
  panicked : history.joining.panicked = true ↔ ∃ index < history.joining.joined,
    ∃ worker, history.pool.workers[index]? = some worker ∧ worker.isUnwound = true

namespace Joined

/-- No worker has been joined of a pool to which nothing has happened. -/
theorem start (count : Nat) : (PoolHistory.start count : PoolHistory σ).Joined where
  ending index before := nomatch before
  panicked := by
    constructor
    · nofun
    · rintro ⟨index, before, -⟩
      cases before

/-- What leaves the workers that are over as they are keeps those joined that have been. -/
theorem keep (joined : history.Joined) (same : next.joining = history.joining)
    (done : ∀ (index : Nat) (worker : Worker), history.pool.workers[index]? = some worker →
      worker.isOver = true → next.pool.workers[index]? = some worker) : next.Joined := by
  have stays {index : Nat} (before : index < history.joining.joined) :
      next.pool.workers[index]? = history.pool.workers[index]? := by
    obtain ⟨worker, there, ending⟩ := joined.ending index before
    rw [there]
    exact done index worker there ending
  refine ⟨fun index before => ?_, ?_⟩
  · rw [same] at before
    rw [stays before]
    exact joined.ending index before
  · rw [same, joined.panicked]
    refine exists_congr fun index => and_congr_right fun before => ?_
    rw [stays before]

/-- Looking after the next worker joins it if it is over. -/
theorem look (joined : history.Joined) :
    ({ history with joining := history.joining.look history.pool } : PoolHistory σ).Joined := by
  unfold Joining.look
  split
  next worker there =>
    split
    next ending =>
      refine ⟨fun index before => ?_, ?_⟩
      · rcases Nat.lt_succ_iff_lt_or_eq.mp before with earlier | rfl
        · exact joined.ending index earlier
        · exact ⟨worker, there, ending⟩
      · simp only [Bool.or_eq_true, joined.panicked]
        constructor
        · rintro (⟨index, before, found⟩ | unwound)
          · exact ⟨index, Nat.lt_succ_of_lt before, found⟩
          · exact ⟨_, Nat.lt_succ_self _, worker, there, unwound⟩
        · rintro ⟨index, before, other, found, unwound⟩
          rcases Nat.lt_succ_iff_lt_or_eq.mp before with earlier | rfl
          · exact .inl ⟨index, earlier, other, found, unwound⟩
          · obtain rfl := Option.some.inj (there.symm.trans found)
            exact .inr unwound
    next => exact joined
  next => exact joined

/-- Every act keeps those joined that have been. -/
theorem step (joined : history.Joined) (dispatcher : Dispatcher σ) (act : PoolAct σ) :
    (history.step dispatcher act).Joined := by
  have stays (act : PoolAct σ) (index : Nat) (worker : Worker)
      (there : history.pool.workers[index]? = some worker) (ending : worker.isOver = true) :
      (history.pool.undergo dispatcher act).workers[index]? = some worker :=
    WorkerPool.undergo_of_isOver dispatcher there ending
  cases act with
  | join => exact joined.look
  | arrive connection => exact joined.keep rfl (stays (.arrive _))
  | peer number act => exact joined.keep rfl (stays (.peer number act))
  | shutdown => exact joined.keep rfl (stays .shutdown)
  | hinder fault => exact joined.keep rfl (stays (.hinder fault))
  | work worker state => exact joined.keep rfl (stays (.work worker state))

/-- Joining comes to an end only once all workers are over, and tells whether one has unwound. -/
theorem result (joined : history.Joined) {result : Except ListenerError Unit}
    (done : history.joining.result? history.pool = some result) :
    history.pool.isOver = true ∧
      result = if history.pool.hasUnwound then .error .threadPanic else .ok () := by
  unfold Joining.result? at done
  split at done
  case isFalse => cases done
  case isTrue all =>
    constructor
    · refine List.all_eq_true.mpr fun worker member => ?_
      obtain ⟨index, there⟩ := List.mem_iff_getElem?.mp member
      obtain ⟨inside, -⟩ := List.getElem?_eq_some_iff.mp there
      obtain ⟨found, at_index, ending⟩ := joined.ending index (all ▸ inside)
      obtain rfl := Option.some.inj (there.symm.trans at_index)
      exact ending
    · have same : history.joining.panicked = history.pool.hasUnwound := by
        rw [Bool.eq_iff_iff, joined.panicked, WorkerPool.hasUnwound, List.any_eq_true]
        constructor
        · rintro ⟨index, -, worker, there, unwound⟩
          exact ⟨worker, List.mem_of_getElem? there, unwound⟩
        · rintro ⟨worker, member, unwound⟩
          obtain ⟨index, there⟩ := List.mem_iff_getElem?.mp member
          obtain ⟨inside, -⟩ := List.getElem?_eq_some_iff.mp there
          exact ⟨index, all ▸ inside, worker, there, unwound⟩
      rw [← same]
      exact (Option.some.inj done).symm

end Joined

/-- The workers of a pool serve every connection once. -/
structure ServesOnce (count : Nat) (history : PoolHistory σ) : Prop where
  /-- Each connection waits, or is served by one worker, or has been served, or is lost. -/
  whereabouts : ∀ number < history.arrivals, ∃! place, history.IsAt number place
  /-- The connections leave the queue in the order of their arrival. -/
  ordered : history.taken.map Prod.snd ++ history.pool.waiting.map (·.number) =
    List.range history.arrivals
  /-- No connection is taken by two workers or twice. -/
  once : (history.taken.map Prod.snd).Nodup
  /-- A connection is served by the worker that has taken it. -/
  served : ∀ worker number, history.pool.servedBy worker = some number →
    (worker, number) ∈ history.taken
  /-- The session of a connection that is not lost is begun by the worker that has taken it, which
  does nothing else in between. -/
  begun : ∀ worker number, (worker, number) ∈ history.handed ↔
    (worker, number) ∈ history.taken ∧ number ∉ history.lost ∧
      ¬ history.pool.IsBeginning worker number
  /-- A connection is lost only where an attempt to take one meets a fault in setting it up, so none
  is lost if no attempt meets any. -/
  spared : history.lost.length ≤ AcceptFault.losses history.faults
  /-- No session begins twice. -/
  handed : (history.handed.map Prod.snd).Nodup
  /-- There are no more sessions at once than workers. -/
  bounded : (history.pool.workers.filterMap Worker.session?).length ≤ max count 1
  /-- The sessions that have begun are counted. -/
  counted : history.pool.counters.sessions = UInt64.ofNat history.handed.length
  /-- Joining the workers ends only once all of them are over and no session is open, and fails
  exactly if one of them has unwound. -/
  joined : ∀ result, history.joining.result? history.pool = some result →
    history.pool.isOver = true ∧ history.pool.workers.filterMap Worker.session? = [] ∧
      result = (if history.pool.hasUnwound then .error .threadPanic else .ok ()) ∧
      ∀ settings listener, (⟨settings, listener, history.pool⟩ : RunningServer).joined.map
        (fun _ => ()) = result.mapError .listener

/-- Whatever happens to the workers of a server, and in whatever order, they serve every connection
once. -/
theorem run_servesOnce (dispatcher : Dispatcher σ) (count : Nat) (acts : List (PoolAct σ)) :
    ((start count).run dispatcher acts).ServesOnce count := by
  let keeps (history : PoolHistory σ) : Prop :=
    history.Sound ∧ history.Counted ∧ history.Joined ∧
      history.lost.length + AcceptFault.losses history.pool.faults ≤
        AcceptFault.losses history.faults ∧
      history.pool.workers.length = max count 1
  have stepped (history : PoolHistory σ) (act : PoolAct σ) (kept : keeps history) :
      keeps (history.step dispatcher act) := by
    obtain ⟨sound, counts, joined, fewer, length⟩ := kept
    refine ⟨sound.step dispatcher act, counts.step sound dispatcher act,
      joined.step dispatcher act, losses_step act fewer, ?_⟩
    rw [← length]
    cases act with
    | join => rfl
    | _ => exact WorkerPool.length_undergo dispatcher history.pool _
  have begins : keeps (start count) :=
    ⟨.start count, .start count, .start count, Nat.le_refl 0, List.length_replicate⟩
  let history : PoolHistory σ := (start count).run dispatcher acts
  have kept : keeps history := run_keeps stepped begins acts
  obtain ⟨sound, counts, joined, fewer, length⟩ := kept
  show history.ServesOnce count
  constructor
  case whereabouts => exact fun number arrived => sound.existsUnique_isAt arrived
  case ordered => exact sound.ordered
  case once => exact sound.nodup
  case served => exact fun worker number serves => (sound.working worker number serves).1
  case begun => exact counts.begun
  case spared => exact Nat.le_of_add_right_le fewer
  case handed =>
    apply List.Nodup.map_on _ counts.once
    intro first here second there same
    have taken := ((counts.begun _ _).mp here).1
    have also := ((counts.begun _ _).mp there).1
    exact List.inj_on_of_nodup_map sound.nodup taken also same
  case bounded =>
    rw [← length]
    exact List.length_filterMap_le _ _
  case counted => exact counts.counted
  case joined =>
    intro result done
    obtain ⟨ending, told⟩ := joined.result done
    have closed : (history.pool.workers.filterMap Worker.session?) = [] := by
      apply List.filterMap_eq_nil_iff.mpr
      intro worker member
      have done := List.all_eq_true.mp ending worker member
      cases worker <;> first | rfl | cases done
    refine ⟨ending, closed, told, fun settings listener => ?_⟩
    rw [told]
    unfold RunningServer.joined
    split <;> rfl

end PoolHistory

end ThresholdDaemon
