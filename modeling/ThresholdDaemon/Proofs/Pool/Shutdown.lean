import ThresholdDaemon.Proofs.Pool.History
import ThresholdDaemon.Proofs.Session.Trail

/-!
# Shutting down

From the moment when a shutdown is asked for, each worker looks for a connection at most once more
and each session receives at most once more, a session that begins later not at all. Frames that
sessions have received by then, or receive in that last attempt, are dealt with before their sessions
end.
-/
namespace ThresholdDaemon

open Session

variable {σ : Type}

namespace Move

/-- The step of a session that a worker has taken. -/
def stride? (move : Move σ) : Option (Stride σ) :=
  move.served.map fun session => ⟨move.asked, session, move.state⟩

/-- The step of the session of a connection that a worker has taken. -/
def strideOf? (number : Nat) (move : Move σ) : Option (Stride σ) :=
  move.stride?.filter (·.session.connection.number = number)

/-- What a worker has counted. -/
def counted (dispatcher : Dispatcher σ) (move : Move σ) : List Counter :=
  move.stride?.elim [] fun stride => (stride.effect dispatcher).counted

/-- A worker has looked for a connection, although a shutdown had been asked for. -/
def isLateAccept (worker : Nat) (move : Move σ) : Bool :=
  move.asked && (move.worker = worker && move.before.any Worker.isAccepting)

end Move

namespace WorkerPool

variable {pool : WorkerPool} {worker index : Nat}

/-- Only a worker that sees no shutdown goes on to look for a connection. -/
theorem step_accepting {dispatcher : Dispatcher σ} {state : σ} {last : Option ErrorKind}
    (accepts : ((pool.step dispatcher index).run state).1.1.workers[index]? =
      some (.accepting last)) : pool.shutdown = false := by
  have placed {pool : WorkerPool} {before : Worker}
      (present : pool.workers[index]? = some before) (worker : Worker) :
      (pool.setWorker index worker).workers[index]? = some worker := by
    obtain ⟨valid, -⟩ := List.getElem?_eq_some_iff.mp present
    exact List.getElem?_set_self valid
  unfold step at accepts
  cases working : pool.workers[index]? with
  | none =>
    rw [working] at accepts
    cases working.symm.trans accepts
  | some before =>
    rw [working] at accepts
    cases before with
    | starting => cases (placed working _).symm.trans accepts
    | checking before =>
      cases asked : pool.shutdown with
      | true =>
        simp only [asked, if_true] at accepts
        cases (placed working _).symm.trans accepts
      | false => rfl
    | accepting before =>
      obtain ⟨workers, -⟩ := pool.accept_frame
      have still : pool.accept.2.workers[index]? = some (.accepting before) := by
        rw [workers]
        exact working
      cases attempt : pool.accept with
      | mk accepted later =>
        rw [attempt] at still
        simp only [attempt] at accepts
        cases accepted <;> cases (placed still _).symm.trans accepts
    | resting before => cases (placed working _).symm.trans accepts
    | serving session =>
      have found := Option.some.inj ((placed working _).symm.trans accepts)
      simp only [workerOf] at found
      split at found <;> cases found
    | stopped => cases working.symm.trans accepts
    | unwound text => cases working.symm.trans accepts

end WorkerPool

namespace PoolHistory

variable {history next : PoolHistory σ} {dispatcher : Dispatcher σ} {worker number : Nat}

/-- The steps of the session of a connection, in order. -/
def strides (history : PoolHistory σ) (number : Nat) : List (Stride σ) :=
  history.moves.filterMap (Move.strideOf? number)

/-- A session that has ended once a session has taken a step had ended before, or it is that one. -/
theorem finished_of_leftOf {session taken : Session} {other : Nat} {state : σ}
    (serves : history.pool.sessionOf worker = some session)
    (kept : history.pool.lostBy worker = none)
    (left : (history.step dispatcher (.work worker state)).pool.sessionOf worker =
      WorkerPool.leftOf taken)
    (ending : other ∈ (history.step dispatcher (.work worker state)).finished) :
    other ∈ history.finished ∨ other = session.connection.number ∧ taken.isOver = true := by
  have lists := (lists_of_serves dispatcher serves kept state).2.2.1
  rw [lists, left, WorkerPool.leftOf] at ending
  cases concluded : taken.isOver with
  | true =>
    simp only [concluded, if_true] at ending
    rcases List.mem_append.mp ending with before | now
    · exact .inl before
    · exact .inr ⟨List.mem_singleton.mp now, rfl⟩
  | false =>
    simp only [concluded, Bool.false_eq_true, if_false] at ending
    exact .inl ((List.mem_append.mp ending).resolve_right List.not_mem_nil)

/-- The sessions have taken the steps that the history tells, and what they have counted is in the
counters. -/
structure Told (dispatcher : Dispatcher σ) (history : PoolHistory σ) : Prop where
  /-- The steps of a session lead to its stage. -/
  leads : ∀ number, ∃ stage, Leads dispatcher .accepted (history.strides number) stage ∧
    (∀ worker session, history.pool.sessionOf worker = some session →
      session.connection.number = number → session.stage = stage) ∧
    (number ∈ history.finished → stage.isLast = true)
  /-- The session of a connection that has not been taken has not taken a step. -/
  fresh : ∀ number, number ∉ history.taken.map Prod.snd → history.strides number = []
  /-- A shutdown stays asked for. -/
  ordered : history.moves.Pairwise fun first second => first.asked = true → second.asked = true
  /-- A shutdown that a worker could see has been asked for. -/
  shown : ∀ move ∈ history.moves, move.asked = true → history.pool.shutdown = true
  /-- The counters are what has been counted. -/
  counted : history.pool.counters =
    Counters.recordAll {} (history.moves.flatMap (Move.counted dispatcher))

namespace Told

/-- Nothing is told of a pool to which nothing has happened. -/
theorem start (count : Nat) : (PoolHistory.start count).Told dispatcher where
  leads number := by
    refine ⟨.accepted, rfl, fun worker session found => ?_, fun ending => nomatch ending⟩
    have same := List.eq_of_mem_replicate
      (List.mem_of_getElem? (WorkerPool.sessionOf_eq_some.mp found))
    cases same
  fresh number _ := rfl
  ordered := .nil
  shown move member := nomatch member
  counted := rfl

/-- What leaves the sessions at their stages without a step adds nothing to what is told. -/
theorem keep (told : history.Told dispatcher) (moves : next.moves = history.moves)
    (counters : next.pool.counters = history.pool.counters)
    (asked : history.pool.shutdown = true → next.pool.shutdown = true)
    (sessions : ∀ worker session, next.pool.sessionOf worker = some session →
      ∃ before, history.pool.sessionOf worker = some before ∧
        before.connection.number = session.connection.number ∧ before.stage = session.stage) :
    next.Told dispatcher := by
  have strides (number : Nat) : next.strides number = history.strides number := by
    unfold PoolHistory.strides
    rw [moves]
  have taken : next.taken = history.taken := by
    unfold PoolHistory.taken
    rw [moves]
  have finished : next.finished = history.finished := by
    unfold PoolHistory.finished
    rw [moves]
  refine ⟨fun number => ?_, fun number => ?_, moves ▸ told.ordered, ?_, ?_⟩
  · obtain ⟨stage, leads, working, ended⟩ := told.leads number
    rw [strides, finished]
    refine ⟨stage, leads, fun worker session found own => ?_, ended⟩
    obtain ⟨before, there, same, at_stage⟩ := sessions worker session found
    rw [← at_stage]
    exact working worker before there (same.trans own)
  · rw [strides, taken]
    exact told.fresh number
  · rw [moves]
    exact fun move member late => asked (told.shown move member late)
  · rw [counters, moves]
    exact told.counted

/-- What a step of a worker tells, whatever it does. -/
theorem extend (told : history.Told dispatcher) (worker : Nat) (state : σ) :
    let move := history.move dispatcher worker state
    let next := history.step dispatcher (.work worker state)
    (∀ number, next.strides number = history.strides number ++ (move.strideOf? number).toList) ∧
      (next.moves.Pairwise fun first second => first.asked = true → second.asked = true) ∧
      (∀ move ∈ next.moves, move.asked = true → next.pool.shutdown = true) ∧
      (next.pool.counters = history.pool.counters.recordAll (move.counted dispatcher) →
        next.pool.counters =
          Counters.recordAll {} (next.moves.flatMap (Move.counted dispatcher))) := by
  intro move next
  have moves : next.moves = history.moves ++ [move] := rfl
  have shutdown : next.pool.shutdown = history.pool.shutdown :=
    (WorkerPool.step_frame dispatcher worker history.pool state).1
  refine ⟨fun number => ?_, ?_, fun other member late => ?_, fun counters => ?_⟩
  · unfold strides
    rw [moves, List.filterMap_append, List.filterMap_cons, List.filterMap_nil]
    cases move.strideOf? number <;> rfl
  · rw [moves, List.pairwise_append]
    refine ⟨told.ordered, List.pairwise_singleton _ _, fun first before last single late => ?_⟩
    obtain rfl := List.mem_singleton.mp single
    exact told.shown first before late
  · rw [shutdown]
    rcases List.mem_append.mp (moves ▸ member) with before | now
    · exact told.shown other before late
    · obtain rfl := List.mem_singleton.mp now
      exact late
  · rw [counters, told.counted, moves, List.flatMap_append, Counters.recordAll_append,
      List.flatMap_singleton]

/-- A worker that serves nothing tells nothing of a session, and the session of a connection that it
takes is at its beginning. -/
theorem idle (told : history.Told dispatcher) (sound : history.Sound) {state : σ}
    (free : history.pool.sessionOf worker = none)
    (counters : (history.step dispatcher (.work worker state)).pool.counters =
      history.pool.counters)
    (sessions : ∀ other session,
      (history.step dispatcher (.work worker state)).pool.sessionOf other = some session →
        history.pool.sessionOf other = some session ∨
          session.stage = .accepted ∧
            ∃ connection ∈ history.pool.waiting, connection.number = session.connection.number)
    (taken : history.taken.map Prod.snd ⊆
      (history.step dispatcher (.work worker state)).taken.map Prod.snd) :
    (history.step dispatcher (.work worker state)).Told dispatcher := by
  obtain ⟨strides, ordered, shown, counted⟩ := told.extend worker state
  have served : (history.move dispatcher worker state).served = none := free
  have same (number : Nat) : (history.step dispatcher (.work worker state)).strides number =
      history.strides number := by
    rw [strides, Move.strideOf?, Move.stride?, served]
    exact List.append_nil _
  have finished := (lists_of_free dispatcher free state).2.2.1
  refine ⟨fun number => ?_, fun number fresh => ?_, ordered, shown, counted ?_⟩
  · obtain ⟨stage, leads, working, ended⟩ := told.leads number
    rw [same, finished]
    refine ⟨stage, leads, fun other session found own => ?_, ended⟩
    rcases sessions other session found with before | ⟨accepted, connection, waits, alike⟩
    · exact working other session before own
    · have none_yet := told.fresh number (own ▸ alike ▸ sound.not_taken waits)
      rw [none_yet] at leads
      exact accepted.trans leads.symm
  · rw [same]
    exact told.fresh number fun before => fresh (taken before)
  · rw [counters, Move.counted, Move.stride?, served]
    rfl

/-- A worker that serves a session tells a step of it. -/
theorem stride (told : history.Told dispatcher) (sound : history.Sound) {state : σ}
    {session taken : Session} {effect : Effect}
    (stepped : ((session.step dispatcher history.pool.shutdown).run state).1 = (taken, effect))
    (serves : history.pool.sessionOf worker = some session)
    (kept : history.pool.lostBy worker = none)
    (sessions : (history.step dispatcher (.work worker state)).pool.sessionOf =
      Function.update history.pool.sessionOf worker (WorkerPool.leftOf taken))
    (counters : (history.step dispatcher (.work worker state)).pool.counters =
      history.pool.counters.recordAll effect.counted) :
    (history.step dispatcher (.work worker state)).Told dispatcher := by
  obtain ⟨strides, ordered, shown, counted⟩ := told.extend worker state
  let stride : Stride σ := ⟨history.pool.shutdown, session, state⟩
  have next : stride.next dispatcher = taken := congrArg Prod.fst stepped
  have served : (history.move dispatcher worker state).served = some session := serves
  have mine : (history.move dispatcher worker state).stride? = some stride := by
    rw [Move.stride?, served]
    rfl
  have left : (history.step dispatcher (.work worker state)).pool.sessionOf worker =
      WorkerPool.leftOf taken := (congrFun sessions worker).trans (Function.update_self ..)
  have same_taken := (lists_of_serves dispatcher serves kept state).1
  have serving : history.pool.servedBy worker = some session.connection.number :=
    congrArg (Option.map _) serves
  have number : taken.connection.number = session.connection.number := by
    have kept := session.step_number dispatcher history.pool.shutdown state
    rwa [stepped] at kept
  obtain ⟨member, going⟩ := sound.working worker _ serving
  refine ⟨fun other => ?_, fun other fresh => ?_, ordered, shown, counted ?_⟩
  · obtain ⟨stage, leads, working, ended⟩ := told.leads other
    rw [strides, Move.strideOf?, mine]
    by_cases own : session.connection.number = other
    · subst own
      refine ⟨taken.stage, ?_, fun index after found same => ?_, fun ending => ?_⟩
      · rw [Option.filter_some, if_pos (decide_eq_true rfl), ← next]
        exact leads.snoc (working worker session serves rfl)
      · rcases WorkerPool.sessionOf_of_leftOf sessions found with ⟨-, rfl⟩ | ⟨apart, before⟩
        · rfl
        · have also : history.pool.servedBy index = some session.connection.number := by
            rw [WorkerPool.servedBy_eq, before, Option.map_some, same]
          exact absurd (sound.once also serving) apart
      · rcases finished_of_leftOf serves kept left ending with before | ⟨-, concluded⟩
        · exact absurd (.inl before) going
        · unfold Session.isOver at concluded
          cases stage : taken.stage <;> simp_all [Stage.isLast]
    · refine ⟨stage, ?_, fun index after found same => ?_, fun ending => ?_⟩
      · rw [Option.filter_some, if_neg (by simpa [stride] using own)]
        simpa using leads
      · rcases WorkerPool.sessionOf_of_leftOf sessions found with ⟨-, rfl⟩ | ⟨-, before⟩
        · exact absurd (number.symm.trans same) own
        · exact working index after before same
      · rcases finished_of_leftOf serves kept left ending with before | ⟨now, -⟩
        · exact ended before
        · exact absurd now.symm own
  · have apart : session.connection.number ≠ other := by
      rintro rfl
      exact fresh (same_taken ▸ List.mem_map_of_mem member)
    rw [strides, Move.strideOf?, mine, Option.filter_some, if_neg (by simpa [stride] using apart)]
    exact (List.append_nil _).trans (told.fresh other fun before => fresh (same_taken ▸ before))
  · rw [counters, Move.counted, mine]
    exact congrArg (fun taken => history.pool.counters.recordAll taken.2.counted) stepped.symm

/-- A step of a worker is told. -/
theorem work (told : history.Told dispatcher) (sound : history.Sound) (worker : Nat) (state : σ) :
    (history.step dispatcher (.work worker state)).Told dispatcher := by
  have taken := (lists_work dispatcher history worker state).1
  have grows : history.taken.map Prod.snd ⊆
      (history.step dispatcher (.work worker state)).taken.map Prod.snd := by
    rw [taken, List.map_append]
    exact List.subset_append_left _ _
  cases history.pool.works_step dispatcher worker state with
  | idles free sessions waiting counters =>
    refine told.idle sound free counters (fun other session found => .inl ?_) grows
    exact (congrFun sessions other).symm.trans found
  | takes connection free kept sessions waiting counters =>
    refine told.idle sound free counters (fun other session found => ?_) grows
    have found := (congrFun sessions other).symm.trans found
    by_cases same : other = worker
    · subst same
      rw [Function.update_self] at found
      obtain rfl := Option.some.inj found
      exact .inr ⟨rfl, connection, waiting ▸ List.mem_cons_self, rfl⟩
    · exact .inl ((Function.update_of_ne same ..).symm.trans found)
  | strides session taken effect stepped serves kept sessions waiting counters =>
    exact told.stride sound stepped serves kept sessions counters

/-- Every act is told. -/
theorem step (told : history.Told dispatcher) (sound : history.Sound) (act : PoolAct σ) :
    (history.step dispatcher act).Told dispatcher := by
  cases act with
  | peer number act =>
    refine told.keep rfl rfl id fun worker session found => ?_
    have same : (history.pool.sessionOf worker).map (WorkerPool.reconnect number act.change) =
        some session := (WorkerPool.sessionOf_changeConnection ..).symm.trans found
    obtain ⟨before, there, rfl⟩ := Option.map_eq_some_iff.mp same
    refine ⟨before, there, ?_, rfl⟩
    simp only [WorkerPool.reconnect]
    split
    · exact (act.number_change _).symm
    · rfl
  | work worker state => exact told.work sound worker state
  | shutdown => exact told.keep rfl rfl (fun _ => rfl) fun worker session found => ⟨_, found, rfl, rfl⟩
  | arrive connection => exact told.keep rfl rfl id fun worker session found => ⟨_, found, rfl, rfl⟩
  | hinder fault => exact told.keep rfl rfl id fun worker session found => ⟨_, found, rfl, rfl⟩
  | join => exact told.keep rfl rfl id fun worker session found => ⟨_, found, rfl, rfl⟩

end Told

/-- Flags that stay in a history stay along the steps of each session. -/
theorem Told.ordered_strides (told : history.Told dispatcher) (number : Nat) :
    (history.strides number).Pairwise fun first second => first.asked = true → second.asked = true := by
  have flag {move : Move σ} {stride : Stride σ} (own : move.strideOf? number = some stride) :
      stride.asked = move.asked := by
    obtain ⟨mine, -⟩ := Option.filter_eq_some_iff.mp own
    obtain ⟨session, -, rfl⟩ := Option.map_eq_some_iff.mp mine
    rfl
  refine told.ordered.filterMap _ fun first second stays stride own other also asked => ?_
  rw [flag also]
  exact stays ((flag own).symm.trans asked)

/-- No worker has looked for a connection twice since a shutdown has been asked for. -/
structure Sparing (history : PoolHistory σ) : Prop where
  /-- None has before. -/
  silent : history.pool.shutdown = false →
    ∀ worker, history.moves.filter (Move.isLateAccept worker) = []
  /-- Each has at most once. -/
  once : ∀ worker, (history.moves.filter (Move.isLateAccept worker)).length ≤ 1
  /-- Whoever has is not about to do so again. -/
  spent : ∀ worker, history.moves.filter (Move.isLateAccept worker) ≠ [] →
    ∀ last, history.pool.workers[worker]? ≠ some (.accepting last)

namespace Sparing

/-- No worker of a pool to which nothing has happened has looked for a connection. -/
theorem start (count : Nat) : (PoolHistory.start count : PoolHistory σ).Sparing :=
  ⟨fun _ _ => rfl, fun _ => Nat.zero_le 1, fun _ spent _ => absurd rfl spent⟩

/-- What leaves the workers where they are keeps them sparing. -/
theorem keep (sparing : history.Sparing) (moves : next.moves = history.moves)
    (asked : next.pool.shutdown = false → history.pool.shutdown = false)
    (workers : ∀ (worker : Nat) (last : Option ErrorKind),
      next.pool.workers[worker]? = some (.accepting last) →
        history.pool.workers[worker]? = some (.accepting last)) : next.Sparing := by
  refine ⟨fun silent worker => ?_, fun worker => ?_, fun worker spent last accepts => ?_⟩
  · rw [moves]
    exact sparing.silent (asked silent) worker
  · rw [moves]
    exact sparing.once worker
  · rw [moves] at spent
    exact sparing.spent worker spent last (workers worker last accepts)

/-- A step of a worker keeps the workers sparing. -/
theorem work (sparing : history.Sparing) (index : Nat) (state : σ) :
    (history.step dispatcher (.work index state)).Sparing := by
  let move := history.move dispatcher index state
  obtain ⟨shutdown, -, others⟩ := WorkerPool.step_frame dispatcher index history.pool state
  have moves (worker : Nat) :
      (history.step dispatcher (.work index state)).moves.filter (Move.isLateAccept worker) =
        history.moves.filter (Move.isLateAccept worker) ++
          if move.isLateAccept worker then [move] else [] := by
    show (history.moves ++ [move]).filter _ = _
    rw [List.filter_append, List.filter_singleton]
    cases move.isLateAccept worker <;> rfl
  have late {worker : Nat} : move.isLateAccept worker = true ↔
      history.pool.shutdown = true ∧ index = worker ∧
        ∃ last, history.pool.workers[index]? = some (.accepting last) := by
    have accepts (worker : Worker) :
        worker.isAccepting = true ↔ ∃ last, worker = .accepting last := by
      cases worker <;> simp [Worker.isAccepting]
    simp [Move.isLateAccept, move, PoolHistory.move, Option.any_eq_true, accepts]
  refine ⟨fun silent worker => ?_, fun worker => ?_, fun worker spent last accepts => ?_⟩
  · have unasked : history.pool.shutdown = false := shutdown.symm.trans silent
    rw [moves, sparing.silent unasked, if_neg]
    · rfl
    · intro now
      cases unasked.symm.trans (late.mp now).1
  · rw [moves]
    split
    next now =>
      obtain ⟨-, rfl, last, accepts⟩ := late.mp now
      have fresh : history.moves.filter (Move.isLateAccept index) = [] := by
        by_contra spent
        exact sparing.spent index spent last accepts
      rw [fresh]
      exact Nat.le_refl 1
    next => simpa using sparing.once worker
  · rw [moves] at spent
    by_cases same : worker = index
    · subst same
      have unasked := WorkerPool.step_accepting accepts
      rw [sparing.silent unasked, if_neg] at spent
      · exact spent rfl
      · intro now
        cases unasked.symm.trans (late.mp now).1
    · rw [if_neg fun now => same (late.mp now).2.1.symm, List.append_nil] at spent
      exact sparing.spent worker spent last ((others worker same).symm.trans accepts)

/-- Every act keeps the workers sparing. -/
theorem step (sparing : history.Sparing) (dispatcher : Dispatcher σ) (act : PoolAct σ) :
    (history.step dispatcher act).Sparing := by
  cases act with
  | work worker state => exact sparing.work worker state
  | peer number act =>
    refine sparing.keep rfl id fun worker last accepts => ?_
    have found := (WorkerPool.workers_changeConnection ..).symm.trans accepts
    obtain ⟨before, there, same⟩ := Option.map_eq_some_iff.mp found
    rw [there]
    cases before <;> cases same
    rfl
  | shutdown => exact sparing.keep rfl (fun asked => nomatch asked) fun _ _ => id
  | arrive connection => exact sparing.keep rfl id fun _ _ => id
  | hinder fault => exact sparing.keep rfl id fun _ _ => id
  | join => exact sparing.keep rfl id fun _ _ => id

end Sparing

/-- A pool shuts down without dropping a request. -/
structure ShutsDown (dispatcher : Dispatcher σ) (history : PoolHistory σ) : Prop where
  /-- A shutdown stays asked for. -/
  lasting : history.moves.Pairwise fun first second => first.asked = true → second.asked = true
  /-- Since then each worker has looked for a connection at most once. -/
  accepts : ∀ worker, (history.moves.filter (Move.isLateAccept worker)).length ≤ 1
  /-- Since then each session has received at most once. -/
  reads : ∀ number, ((history.strides number).filter Stride.isLateRead).length ≤ 1
  /-- A session that has begun since then has received nothing. -/
  late : ∀ number first rest, history.strides number = first :: rest → first.asked = true →
    ∀ stride ∈ history.strides number, stride.session.stage ≠ .reading
  /-- Every frame that a session has received was dealt with before the end of the session. -/
  answered : ∀ number ∈ history.finished, ∀ front receives rest bytes,
    history.strides number = front ++ receives :: rest →
      receives.frame? dispatcher = some bytes → Answers dispatcher bytes rest
  /-- A session that leaves for the shutdown has counted one response or one error for each frame,
  and counts and sends nothing more. -/
  leaving : ∀ number front leaves rest, history.strides number = front ++ leaves :: rest →
    leaves.session.stage = .polling → leaves.asked = true →
      (leaves.next dispatcher).stage = .ended ∧ (leaves.effect dispatcher).counted = [] ∧
        (leaves.effect dispatcher).sent = [] ∧
        (countedBy dispatcher front).count .error + (countedBy dispatcher front).count .response =
          received dispatcher front
  /-- What the sessions have counted is in the counters. -/
  counted : history.pool.counters =
    Counters.recordAll {} (history.moves.flatMap (Move.counted dispatcher))

/-- Whatever happens to the workers of a server, and whenever a shutdown is asked for, they shut down
without dropping a request. -/
theorem run_shutsDown (dispatcher : Dispatcher σ) (count : Nat) (acts : List (PoolAct σ)) :
    ((start count).run dispatcher acts).ShutsDown dispatcher := by
  let keeps (history : PoolHistory σ) : Prop :=
    history.Sound ∧ history.Told dispatcher ∧ history.Sparing
  have stepped (history : PoolHistory σ) (act : PoolAct σ) (kept : keeps history) :
      keeps (history.step dispatcher act) := by
    obtain ⟨sound, told, sparing⟩ := kept
    exact ⟨sound.step dispatcher act, told.step sound act, sparing.step dispatcher act⟩
  have begins : keeps (start count) := ⟨.start count, .start count, .start count⟩
  obtain ⟨sound, told, sparing⟩ := run_keeps stepped begins acts
  constructor
  case lasting => exact told.ordered
  case accepts => exact sparing.once
  case reads =>
    intro number
    obtain ⟨stage, leads, -, -⟩ := told.leads number
    exact leads.lateReads_le (told.ordered_strides number)
  case late =>
    intro number first rest split asked
    obtain ⟨stage, leads, -, -⟩ := told.leads number
    have ordered := told.ordered_strides number
    rw [split] at leads ordered ⊢
    exact leads.not_reading ordered asked
  case answered =>
    intro number ending front receives rest bytes split frame
    obtain ⟨stage, leads, -, ended⟩ := told.leads number
    rw [split] at leads
    obtain ⟨middle, -, -, behind⟩ := leads_append.mp leads
    rw [Stride.stage_of_frame? frame] at behind
    exact behind.answers (ended ending)
  case leaving =>
    intro number front leaves rest split polls asked
    obtain ⟨stage, leads, -, -⟩ := told.leads number
    rw [split] at leads
    obtain ⟨middle, before, leads⟩ := leads_append.mp leads
    obtain ⟨ended, -, counted, sent⟩ := leads.leaves polls asked
    obtain rfl : .polling = middle := polls.symm.trans leads.1
    exact ⟨ended, counted, sent, before.counted_eq.symm⟩
  case counted => exact told.counted

end PoolHistory

end ThresholdDaemon
