import ThresholdDaemon.Proofs.Session.Run

/-!
# Sessions return

Nothing that a connection sends and nothing that a provider does unwinds a session: the only step
that could is the one that allocates the buffer, and it does so exactly if the buffer for the frame
limit is larger than an allocation may be.
-/
namespace ThresholdDaemon

namespace Session

variable {σ : Type}

/-- A session has the buffer of a frame limit and has not unwound. -/
structure Endures (limit : Nat) (session : Session) : Prop where
  /-- The buffer is for the limit. -/
  limit_eq : session.buffer.limit = limit
  /-- The session has not unwound. -/
  not_unwound : ∀ text, session.stage ≠ .unwound text

/-- A new session has not unwound. -/
theorem endures_accept (limit : Nat) (connection : Connection) :
    (accept limit connection).Endures limit := ⟨rfl, fun _ => nofun⟩

/-- A step keeps the limit of the buffer. -/
theorem limit_step (dispatcher : Dispatcher σ) (shutdown : Bool) (session : Session) (state : σ) :
    ((session.step dispatcher shutdown).run state).1.1.buffer.limit = session.buffer.limit := by
  unfold Session.step
  cases stage : session.stage with
  | limiting =>
    show session.limit.1.buffer.limit = _
    unfold limit
    cases session.connection.unlimited <;> rfl
  | opening =>
    cases created : FrameBuffer.create? session.buffer.limit with
    | none => rfl
    | some buffer =>
      simp only [FrameBuffer.create?, Option.ite_none_right_eq_some] at created
      exact (congrArg FrameBuffer.limit (Option.some.inj created.2)).symm
  | polling => cases shutdown <;> rfl
  | reading =>
    obtain ⟨stage, next, -⟩ := session.read_next
    show session.read.1.buffer.limit = _
    rw [next]
    exact FrameBuffer.receive_limit _ _
  | handling bytes =>
    obtain ⟨stage, next, -⟩ := handle_next dispatcher session bytes state
    exact congrArg (·.buffer.limit) next
  | replying response =>
    obtain ⟨stage, next, -⟩ := session.reply_next response
    exact congrArg (·.buffer.limit) next
  | accepted | counting | ended | unwound => rfl

/-- A session whose buffer can be allocated does not unwind. -/
theorem Endures.step {limit : Nat} (fits : limit < allocationMax) {session : Session}
    (endures : session.Endures limit) (dispatcher : Dispatcher σ) (shutdown : Bool) (state : σ) :
    ((session.step dispatcher shutdown).run state).1.1.Endures limit := by
  refine ⟨(limit_step dispatcher shutdown session state).trans endures.limit_eq, fun text => ?_⟩
  unfold Session.step
  cases stage : session.stage with
  | accepted => exact nofun
  | limiting =>
    show session.limit.1.stage ≠ _
    unfold Session.limit
    cases session.connection.unlimited <;> exact nofun
  | opening =>
    have created : FrameBuffer.create? session.buffer.limit =
        some { limit := session.buffer.limit } := by
      rw [endures.limit_eq]
      exact if_pos (FrameBuffer.capacityFor_le_iff.mpr fits)
    simp only [created]
    exact nofun
  | polling => cases shutdown <;> exact nofun
  | reading =>
    show session.read.1.stage ≠ _
    obtain ⟨stage, next, rfl | rfl | ⟨rfl | ⟨bytes, rfl⟩, -⟩⟩ := session.read_next <;>
      rw [next] <;> exact nofun
  | handling bytes =>
    obtain ⟨stage, next, rfl | ⟨response, rfl⟩⟩ := handle_next dispatcher session bytes state <;>
      exact fun unwound => nomatch (congrArg Session.stage next).symm.trans unwound
  | replying response =>
    show (session.reply response).1.stage ≠ _
    obtain ⟨stage, next, rfl | rfl⟩ := session.reply_next response <;> rw [next] <;> exact nofun
  | counting counter last => cases last <;> exact nofun
  | ended => exact fun unwound => nomatch stage.symm.trans unwound
  | unwound other => exact absurd stage (endures.not_unwound other)

end Session

end ThresholdDaemon
