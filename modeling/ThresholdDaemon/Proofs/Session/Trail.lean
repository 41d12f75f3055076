import ThresholdDaemon.Proofs.Session.Stride

/-!
# The steps of a session until a shutdown

The steps of a session lead from stage to stage, whatever its peer does in between. Once a shutdown
has been asked for, a session receives at most once more, and not at all if it begins only then. A
frame that has been received is handled all the same, and its response is sent whole or an error is
counted. Leaving for the shutdown counts nothing.
-/
namespace ThresholdDaemon.Session

variable {σ : Type}

/-- A step of a session. -/
structure Stride (σ : Type) where
  /-- A shutdown had been asked for. -/
  asked : Bool
  /-- The session in front of the step. -/
  session : Session
  /-- The state of the provider. -/
  state : σ

namespace Stride

/-- The session behind the step. -/
def next (dispatcher : Dispatcher σ) (stride : Stride σ) : Session :=
  ((stride.session.step dispatcher stride.asked).run stride.state).1.1

/-- What others see of the step. -/
def effect (dispatcher : Dispatcher σ) (stride : Stride σ) : Effect :=
  ((stride.session.step dispatcher stride.asked).run stride.state).1.2

/-- The frame that the step has received. -/
def frame? (dispatcher : Dispatcher σ) (stride : Stride σ) : Option Bytes :=
  match stride.session.stage, (stride.next dispatcher).stage with
  | .reading, .handling bytes => some bytes
  | _, _ => none

/-- A frame that has been received is about to be handled. -/
theorem stage_of_frame? {dispatcher : Dispatcher σ} {stride : Stride σ} {bytes : Bytes}
    (received : stride.frame? dispatcher = some bytes) :
    (stride.next dispatcher).stage = .handling bytes := by
  unfold frame? at received
  split at received
  next stage next =>
    obtain rfl := Option.some.inj received
    exact next
  next => cases received

/-- The step receives, although a shutdown has been asked for. -/
def isLateRead (stride : Stride σ) : Bool := stride.asked && stride.session.stage = .reading

/-- What the step may do. -/
theorem goes (dispatcher : Dispatcher σ) (stride : Stride σ) :
    Goes (answerIn dispatcher stride.state) stride.asked stride.session.stage
      (stride.next dispatcher).stage (stride.effect dispatcher) :=
  stride.session.goes_step dispatcher stride.asked stride.state

end Stride

variable {dispatcher : Dispatcher σ} {before after : Stage} {strides : List (Stride σ)}

/-- Some steps lead from one stage to another. -/
def Leads (dispatcher : Dispatcher σ) : Stage → List (Stride σ) → Stage → Prop
  | before, [], after => after = before
  | before, stride :: rest, after =>
    stride.session.stage = before ∧ Leads dispatcher (stride.next dispatcher).stage rest after

/-- Some steps and then others lead through the stage between them. -/
theorem leads_append {front rest : List (Stride σ)} :
    Leads dispatcher before (front ++ rest) after ↔
      ∃ middle, Leads dispatcher before front middle ∧ Leads dispatcher middle rest after := by
  induction front generalizing before with
  | nil => simp [Leads]
  | cons stride front ih =>
    show _ ∧ Leads dispatcher (stride.next dispatcher).stage (front ++ rest) after ↔ _
    rw [ih]
    constructor
    · rintro ⟨stage, middle, first, second⟩
      exact ⟨middle, ⟨stage, first⟩, second⟩
    · rintro ⟨middle, ⟨stage, first⟩, second⟩
      exact ⟨stage, middle, first, second⟩

/-- A step more leads to the stage behind it. -/
theorem Leads.snoc (leads : Leads dispatcher before strides after) {stride : Stride σ}
    (stage : stride.session.stage = after) :
    Leads dispatcher before (strides ++ [stride]) (stride.next dispatcher).stage :=
  leads_append.mpr ⟨after, leads, stage, rfl⟩

/-! ### Receiving once more -/

/-- Only a session that sees no shutdown goes on to receive. -/
theorem Goes.of_reading {answers : Bytes → Option Frame} {asked : Bool} {effect : Effect}
    (goes : Goes answers asked before after effect) (reads : after = .reading) : asked = false := by
  cases goes with
  | polls silent => exact silent
  | rests done =>
    subst reads
    cases done
  | _ => cases reads

/-- While a shutdown shows, a session receives only at once. -/
theorem Leads.reads_of_asked (leads : Leads dispatcher before strides after)
    (asked : ∀ stride ∈ strides, stride.asked = true) :
    (strides.filter fun stride => stride.session.stage = .reading).length ≤
      if before = .reading then 1 else 0 := by
  induction strides generalizing before with
  | nil => exact Nat.zero_le _
  | cons stride rest ih =>
    obtain ⟨rfl, leads⟩ := leads
    have silent : (stride.next dispatcher).stage ≠ .reading := by
      intro reads
      have unasked := (stride.goes dispatcher).of_reading reads
      cases unasked.symm.trans (asked stride List.mem_cons_self)
    have behind := ih leads fun other member => asked other (List.mem_cons_of_mem _ member)
    rw [if_neg silent] at behind
    by_cases reads : stride.session.stage = .reading
    · simp only [List.filter_cons, reads, decide_true, if_true, List.length_cons]
      omega
    · simp only [List.filter_cons, reads, decide_false, Bool.false_eq_true, if_false]
      exact behind

/-- Flags that stay are all set behind one that is. -/
theorem asked_of_head {first : Stride σ} {rest : List (Stride σ)}
    (ordered : (first :: rest).Pairwise fun earlier later => earlier.asked = true →
      later.asked = true) (asked : first.asked = true) :
    ∀ stride ∈ first :: rest, stride.asked = true := by
  intro stride member
  rcases List.mem_cons.mp member with rfl | behind
  · exact asked
  · exact (List.pairwise_cons.mp ordered).1 stride behind asked

/-- Once a shutdown has been asked for, a session receives at most once more. -/
theorem Leads.lateReads_le (leads : Leads dispatcher before strides after)
    (ordered : strides.Pairwise fun earlier later => earlier.asked = true → later.asked = true) :
    (strides.filter Stride.isLateRead).length ≤ 1 := by
  induction strides generalizing before with
  | nil => exact Nat.zero_le _
  | cons stride rest ih =>
    cases asked : stride.asked with
    | true =>
      have all := asked_of_head ordered asked
      have same : (stride :: rest).filter Stride.isLateRead =
          (stride :: rest).filter fun stride => stride.session.stage = .reading := by
        refine List.filter_congr fun other member => ?_
        rw [Stride.isLateRead, all other member, Bool.true_and]
      have bound := leads.reads_of_asked all
      rw [← same] at bound
      refine Nat.le_trans bound ?_
      split <;> decide
    | false =>
      have skipped : stride.isLateRead = false := by
        rw [Stride.isLateRead, asked, Bool.false_and]
      rw [List.filter_cons, if_neg (by simp [skipped])]
      exact ih leads.2 (List.pairwise_cons.mp ordered).2

/-- A session that begins once a shutdown has been asked for receives nothing. -/
theorem Leads.not_reading {first : Stride σ} {rest : List (Stride σ)}
    (leads : Leads dispatcher .accepted (first :: rest) after)
    (ordered : (first :: rest).Pairwise fun earlier later => earlier.asked = true →
      later.asked = true) (asked : first.asked = true) :
    ∀ stride ∈ first :: rest, stride.session.stage ≠ .reading := by
  have none := leads.reads_of_asked (asked_of_head ordered asked)
  rw [if_neg nofun] at none
  intro stride member reads
  have found : stride ∈ (first :: rest).filter fun stride => stride.session.stage = .reading :=
    List.mem_filter.mpr ⟨member, decide_eq_true reads⟩
  exact absurd (List.length_pos_of_mem found) (by omega)

/-! ### Frames that have been received -/

/-- Something is counted in the next step. -/
def Counts (dispatcher : Dispatcher σ) (counter : Counter) (strides : List (Stride σ)) : Prop :=
  ∃ stride rest, strides = stride :: rest ∧ (stride.effect dispatcher).counted = [counter]

/-- A frame is dealt with by the next steps: it is handled, and either its response is sent whole and
counted, or an error is counted. -/
def Answers (dispatcher : Dispatcher σ) (bytes : Bytes) (strides : List (Stride σ)) : Prop :=
  ∃ handles rest, strides = handles :: rest ∧ handles.session.stage = .handling bytes ∧
    match answerIn dispatcher handles.state bytes with
    | none => Counts dispatcher .error rest
    | some response =>
      ∃ replies rest', rest = replies :: rest' ∧ replies.session.stage = .replying response ∧
        ((replies.effect dispatcher).sent = response.encode ∧ Counts dispatcher .response rest' ∨
          Counts dispatcher .error rest')

/-- A session that goes on to the end takes a step at any stage before it. -/
theorem Leads.exists_next (leads : Leads dispatcher before strides after)
    (done : after.isLast = true) (going : before.isLast = false) :
    ∃ stride rest, strides = stride :: rest ∧ stride.session.stage = before ∧
      Leads dispatcher (stride.next dispatcher).stage rest after := by
  cases strides with
  | nil =>
    obtain rfl : after = before := leads
    cases done.symm.trans going
  | cons stride rest => exact ⟨stride, rest, rfl, leads.1, leads.2⟩

/-- What a session is about to count is counted before its end. -/
theorem Leads.counts {counter : Counter} {last : Bool}
    (leads : Leads dispatcher (.counting counter last) strides after)
    (done : after.isLast = true) : Counts dispatcher counter strides := by
  obtain ⟨stride, rest, rfl, stage, -⟩ := leads.exists_next done rfl
  have goes := stride.goes dispatcher
  rw [stage] at goes
  refine ⟨stride, rest, rfl, ?_⟩
  generalize (stride.next dispatcher).stage = next, stride.effect dispatcher = effect at goes ⊢
  cases goes with
  | counts => rfl
  | concludes => rfl
  | rests done => cases done

/-- A response that a session is about to send is sent whole or counted as an error before its
end. -/
theorem Leads.replies {response : Frame}
    (leads : Leads dispatcher (.replying response) strides after) (done : after.isLast = true) :
    ∃ replies rest, strides = replies :: rest ∧ replies.session.stage = .replying response ∧
      ((replies.effect dispatcher).sent = response.encode ∧ Counts dispatcher .response rest ∨
        Counts dispatcher .error rest) := by
  obtain ⟨stride, rest, rfl, stage, behind⟩ := leads.exists_next done rfl
  have goes := stride.goes dispatcher
  rw [stage] at goes
  refine ⟨stride, rest, rfl, stage, ?_⟩
  generalize (stride.next dispatcher).stage = next, stride.effect dispatcher = effect at goes behind ⊢
  cases goes with
  | delivers => exact .inl ⟨rfl, behind.counts done⟩
  | breaks log front => exact .inr (behind.counts done)
  | rests done => cases done

/-- A frame that a session is about to handle is dealt with before its end. -/
theorem Leads.answers {bytes : Bytes}
    (leads : Leads dispatcher (.handling bytes) strides after) (done : after.isLast = true) :
    Answers dispatcher bytes strides := by
  obtain ⟨stride, rest, rfl, stage, behind⟩ := leads.exists_next done rfl
  have goes := stride.goes dispatcher
  rw [stage] at goes
  refine ⟨stride, rest, rfl, stage, ?_⟩
  generalize (stride.next dispatcher).stage = next, stride.effect dispatcher = effect at goes behind
  cases goes with
  | answers log answered =>
    rw [answered]
    exact behind.replies done
  | refuses log refused =>
    rw [refused]
    exact behind.counts done
  | rests done => cases done

/-! ### Leaving for a shutdown -/

/-- A session that is over stays where it is. -/
theorem Leads.of_isLast (leads : Leads dispatcher before strides after)
    (done : before.isLast = true) : after = before := by
  induction strides with
  | nil => exact leads
  | cons stride rest ih =>
    obtain ⟨rfl, behind⟩ := leads
    have stays : (stride.next dispatcher).stage = stride.session.stage := by
      have goes := stride.goes dispatcher
      generalize stride.session.stage = stage, (stride.next dispatcher).stage = next,
        stride.effect dispatcher = effect at goes done ⊢
      cases goes with
      | rests => rfl
      | _ => cases done
    rw [stays] at behind
    exact ih behind

/-- A session that leaves for a shutdown takes no other step behind that one, which counts and sends
nothing. -/
theorem Leads.leaves {stride : Stride σ} {rest : List (Stride σ)}
    (leads : Leads dispatcher before (stride :: rest) after)
    (polls : stride.session.stage = .polling) (asked : stride.asked = true) :
    (stride.next dispatcher).stage = .ended ∧ after = .ended ∧
      (stride.effect dispatcher).counted = [] ∧ (stride.effect dispatcher).sent = [] := by
  have goes := stride.goes dispatcher
  have behind := leads.2
  rw [polls, asked] at goes
  generalize (stride.next dispatcher).stage = next, stride.effect dispatcher = effect
    at goes behind ⊢
  cases goes with
  | leaves log shows => exact ⟨rfl, behind.of_isLast rfl, rfl, rfl⟩
  | polls silent => cases silent
  | rests done => cases done

/-- A session that counts the last thing does not look for a shutdown any more. -/
theorem Leads.not_polling_of_last {counter : Counter}
    (leads : Leads dispatcher (.counting counter true) strides .polling) : False := by
  cases strides with
  | nil => cases (show Stage.polling = .counting counter true from leads)
  | cons stride rest =>
    obtain ⟨stage, behind⟩ := leads
    have goes := stride.goes dispatcher
    rw [stage] at goes
    generalize (stride.next dispatcher).stage = next, stride.effect dispatcher = effect
      at goes behind
    cases goes with
    | concludes => cases behind.of_isLast rfl
    | rests done => cases done

/-- How many frames still have to be counted at a stage. -/
def Stage.outstanding : Stage → Nat
  | .handling _ | .replying _ | .counting .error false | .counting .response false => 1
  | _ => 0

/-- How many frames some steps have received. -/
def received (dispatcher : Dispatcher σ) (strides : List (Stride σ)) : Nat :=
  (strides.filterMap (Stride.frame? dispatcher)).length

/-- What some steps have counted. -/
def countedBy (dispatcher : Dispatcher σ) (strides : List (Stride σ)) : List Counter :=
  strides.flatMap fun stride => (stride.effect dispatcher).counted

/-- Until a session that goes on looks for a shutdown, it has counted one response or one error for
each frame. -/
theorem Leads.counted_eq (leads : Leads dispatcher before strides .polling) :
    received dispatcher strides + before.outstanding =
      (countedBy dispatcher strides).count .error + (countedBy dispatcher strides).count .response := by
  induction strides generalizing before with
  | nil =>
    obtain rfl : .polling = before := leads
    rfl
  | cons stride rest ih =>
    obtain ⟨rfl, behind⟩ := leads
    have later := ih behind
    have frames : received dispatcher (stride :: rest) =
        (stride.frame? dispatcher).toList.length + received dispatcher rest := by
      unfold received
      rw [List.filterMap_cons]
      cases stride.frame? dispatcher with
      | none => exact (Nat.zero_add _).symm
      | some frame => exact Nat.add_comm _ 1
    have counts (counter : Counter) : (countedBy dispatcher (stride :: rest)).count counter =
        (stride.effect dispatcher).counted.count counter +
          (countedBy dispatcher rest).count counter := List.count_append ..
    rw [frames, counts, counts]
    have goes := stride.goes dispatcher
    unfold Stride.frame?
    generalize stride.session.stage = stage, (stride.next dispatcher).stage = next,
      stride.effect dispatcher = effect at goes behind later ⊢
    cases goes with
    | fails | loses | breaks => exact behind.not_polling_of_last.elim
    | bursts | leaves | closes | concludes => cases behind.of_isLast rfl
    | counts counter =>
      cases counter <;> simp [Stage.outstanding] at later ⊢ <;> omega
    | rests done =>
      obtain rfl := behind.of_isLast done
      cases done
    | _ =>
      simp [Stage.outstanding] at later ⊢
      omega

end ThresholdDaemon.Session
