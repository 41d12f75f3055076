import ThresholdDaemon.Proofs.Dispatch.Plan
import ThresholdDaemon.Proofs.Session.Run

/-!
# Sessions that run alone

The callers of a provider share a state of it, and each has coins of its own. If the answers of the
provider depend only on what it is asked and on the coins, then no session notices what the state
shared is before any of its steps. What a session does is fixed then by its connection, its coins
and how many of its steps come before a shutdown shows.
-/
namespace ThresholdDaemon

variable {σ τ α : Type}

/-- The answers of a provider depend only on what it is asked and on the coins of its caller: what
all callers share changes neither an answer nor the coins that are left. -/
def Provider.AnswersAlone (provider : Provider (σ × τ)) : Prop :=
  ∀ (call : ProviderCall) (shared other : σ) (coins : τ),
    ((provider.make call).run (shared, coins)).1 = ((provider.make call).run (other, coins)).1 ∧
      ((provider.make call).run (shared, coins)).2.2 =
        ((provider.make call).run (other, coins)).2.2

/-- What following a plan gives does not depend on what is shared. -/
theorem Plan.follow_alone {provider : Provider (σ × τ)} (alone : provider.AnswersAlone)
    (plan : Plan α) (shared other : σ) (coins : τ) :
    ((plan.follow provider).run (shared, coins)).1 =
        ((plan.follow provider).run (other, coins)).1 ∧
      ((plan.follow provider).run (shared, coins)).2.2 =
        ((plan.follow provider).run (other, coins)).2.2 := by
  cases plan with
  | settled value => exact ⟨rfl, rfl⟩
  | asking call decide =>
    obtain ⟨answer, left⟩ := alone call shared other coins
    exact ⟨congrArg decide answer, left⟩

namespace Session

variable {dispatcher : Dispatcher (σ × τ)}

/-- Handling a frame does not depend on what is shared. -/
theorem handle_alone (alone : dispatcher.provider.AnswersAlone) (session : Session)
    (bytes : Bytes) (shared other : σ) (coins : τ) :
    ((session.handle dispatcher bytes).run (shared, coins)).1 =
        ((session.handle dispatcher bytes).run (other, coins)).1 ∧
      ((session.handle dispatcher bytes).run (shared, coins)).2.2 =
        ((session.handle dispatcher bytes).run (other, coins)).2.2 := by
  have planned : session.handle dispatcher bytes =
      ((plan dispatcher.frameLimit dispatcher.provider.signatureLengthBound bytes).map fun
        | (some frame, log) => (session.goTo (.replying frame), ({ log } : Effect))
        | (none, log) => (session.goTo (.counting .error false), { log })).follow
        dispatcher.provider := by
    rw [Plan.follow_map, ← answer_eq_follow, map_eq_pure_bind]
    unfold handle
    congr 1
    funext ⟨response, log⟩
    cases response <;> rfl
  rw [planned]
  exact Plan.follow_alone alone _ shared other coins

/-- A step of a session does not depend on what is shared. -/
theorem step_alone (alone : dispatcher.provider.AnswersAlone) (shutdown : Bool)
    (session : Session) (shared other : σ) (coins : τ) :
    ((session.step dispatcher shutdown).run (shared, coins)).1 =
        ((session.step dispatcher shutdown).run (other, coins)).1 ∧
      ((session.step dispatcher shutdown).run (shared, coins)).2.2 =
        ((session.step dispatcher shutdown).run (other, coins)).2.2 := by
  unfold step
  cases session.stage with
  | handling bytes => exact session.handle_alone alone bytes shared other coins
  | opening =>
    dsimp only
    cases FrameBuffer.create? session.buffer.limit <;> exact ⟨rfl, rfl⟩
  | polling => cases shutdown <;> exact ⟨rfl, rfl⟩
  | accepted | limiting | reading | replying _ | counting _ _ | ended | unwound _ =>
    exact ⟨rfl, rfl⟩

/-- A step keeps the number of the connection. -/
theorem step_number {σ : Type} (dispatcher : Dispatcher σ) (shutdown : Bool) (session : Session)
    (state : σ) :
    ((session.step dispatcher shutdown).run state).1.1.connection.number =
      session.connection.number := by
  unfold step
  cases stage : session.stage with
  | limiting =>
    unfold limit
    cases session.connection.unlimited <;> rfl
  | opening =>
    dsimp only
    cases FrameBuffer.create? session.buffer.limit <;> rfl
  | polling => cases shutdown <;> rfl
  | reading =>
    obtain ⟨found, next, -⟩ := session.read_next
    exact congrArg (·.connection.number) next
  | handling bytes =>
    obtain ⟨found, next, -⟩ := handle_next dispatcher session bytes state
    exact congrArg (·.connection.number) next
  | replying response =>
    obtain ⟨found, next, -⟩ := session.reply_next response
    exact congrArg (·.connection.number) next
  | accepted | counting _ _ | ended | unwound _ => rfl

/-- Take one step for each flag that says whether a shutdown shows. -/
def stepThrough {σ : Type} (dispatcher : Dispatcher σ) :
    List Bool → Session → StateM σ (Session × Effect)
  | [], session => pure (session, {})
  | shutdown :: rest, session => do
    let (session, effect) ← session.step dispatcher shutdown
    let (session, more) ← stepThrough dispatcher rest session
    return (session, effect ++ more)

/-- A run takes one step for each moment. -/
theorem runFrom_eq_stepThrough {σ : Type} (dispatcher : Dispatcher σ) (moment : Option Nat)
    (fuel time : Nat) (session : Session) :
    session.runFrom dispatcher moment fuel time =
      session.stepThrough dispatcher
        ((List.range' time fuel).map fun time => moment.any (· ≤ time)) := by
  induction fuel generalizing time session with
  | zero => rfl
  | succ fuel ih =>
    rw [List.range'_succ, List.map_cons]
    unfold runFrom stepThrough
    simp only [ih]

/-- Some steps and then others. -/
theorem stepThrough_append {σ : Type} (dispatcher : Dispatcher σ) (flags more : List Bool)
    (session : Session) (state : σ) :
    (session.stepThrough dispatcher (flags ++ more)).run state =
      let before := (session.stepThrough dispatcher flags).run state
      let behind := (before.1.1.stepThrough dispatcher more).run before.2
      ((behind.1.1, before.1.2 ++ behind.1.2), behind.2) := by
  induction flags generalizing session state with
  | nil => rfl
  | cons shutdown rest ih =>
    show (let first := (session.step dispatcher shutdown).run state
      let later := (first.1.1.stepThrough dispatcher (rest ++ more)).run first.2
      ((later.1.1, first.1.2 ++ later.1.2), later.2)) = _
    simp only [ih, ← Effect.append_assoc]
    rfl

/-- One more step. -/
theorem stepThrough_snoc {σ : Type} (dispatcher : Dispatcher σ) (flags : List Bool)
    (shutdown : Bool) (session : Session) (state : σ) :
    (session.stepThrough dispatcher (flags ++ [shutdown])).run state =
      let before := (session.stepThrough dispatcher flags).run state
      let last := (before.1.1.step dispatcher shutdown).run before.2
      ((last.1.1, before.1.2 ++ last.1.2), last.2) := by
  have single (session : Session) (state : σ) :
      (session.stepThrough dispatcher [shutdown]).run state =
        let last := (session.step dispatcher shutdown).run state
        ((last.1.1, last.1.2), last.2) := by
    show (let last := (session.step dispatcher shutdown).run state
      ((last.1.1, last.1.2 ++ {}), last.2)) = _
    simp only [Effect.append_empty]
  rw [stepThrough_append]
  simp only [single]

/-- A session that is over stays as it is. -/
theorem stepThrough_of_isOver {σ : Type} (dispatcher : Dispatcher σ) (flags : List Bool)
    {session : Session} (concluded : session.isOver) (state : σ) :
    (session.stepThrough dispatcher flags).run state = ((session, {}), state) := by
  induction flags with
  | nil => rfl
  | cons shutdown rest ih =>
    show (let first := (session.step dispatcher shutdown).run state
      let later := (first.1.1.stepThrough dispatcher rest).run first.2
      ((later.1.1, first.1.2 ++ later.1.2), later.2)) = _
    simp only [step_of_isOver dispatcher shutdown concluded, ih]
    rfl

end Session

end ThresholdDaemon
