import ThresholdDaemon.Connection

/-!
# Deliveries

A write that takes something, or that was interrupted, leaves what it did not take to the next one;
every other write ends the delivery with its error. So a script is read up to the first write that
ends the delivery: what the writes in front of it have room for is the front of the frame that was
taken. Only if that is all of it the connection is flushed, once.
-/
namespace ThresholdDaemon

namespace WriteEvent

/-- The most bytes that a write takes. -/
def room : WriteEvent → Nat
  | accepts count => count
  | fails _ => 0

/-- A write behind which the next one is made: it takes something or was interrupted. -/
def GoesOn : WriteEvent → Prop
  | accepts count => 0 < count
  | fails error => error.errorKind = .interrupted

/-- A write that ends a delivery with an error. -/
inductive EndsWith : WriteEvent → SystemError → Prop
  /-- It takes nothing. -/
  | nothing : EndsWith (accepts 0) wroteNothing
  /-- It fails without having been interrupted. -/
  | failure {error : SystemError} (final : error.errorKind ≠ .interrupted) :
    EndsWith (fails error) error

/-- A delivery never ends because of an interruption. -/
theorem EndsWith.not_interrupted {event : WriteEvent} {error : SystemError}
    (ends : event.EndsWith error) : error.errorKind ≠ .interrupted := by
  cases ends with
  | nothing => decide
  | failure final => exact final

/-- Every write lets the delivery go on or ends it. -/
theorem goesOn_or_endsWith (event : WriteEvent) :
    event.GoesOn ∨ ∃ error, event.EndsWith error := by
  cases event with
  | accepts count =>
    cases count with
    | zero => exact .inr ⟨_, .nothing⟩
    | succ count => exact .inl (Nat.succ_pos count)
  | fails error =>
    by_cases interrupted : error.errorKind = .interrupted
    · exact .inl interrupted
    · exact .inr ⟨error, .failure interrupted⟩

end WriteEvent

namespace WriteScript

/-- The most bytes that some writes take. -/
def room : WriteScript → Nat
  | [] => 0
  | event :: rest => event.room + room rest

/-- The writes of a script take some bytes: none of them ends the delivery as long as bytes are
left. -/
def Takes (script : WriteScript) (size : Nat) : Prop :=
  ∃ before after : WriteScript, script = before ++ after ∧ (∀ event ∈ before, event.GoesOn) ∧
    (after = [] ∨ size ≤ before.room)

/-- The delivery of some bytes ends with an error behind some writes, which leave bytes to be
taken. -/
def EndsBehind (script : WriteScript) (size : Nat) (before : WriteScript) (error : SystemError) :
    Prop :=
  ∃ event after, script = before ++ event :: after ∧ (∀ event ∈ before, event.GoesOn) ∧
    before.room < size ∧ event.EndsWith error

/-- A script takes some bytes, or the delivery ends before. -/
theorem takes_or_endsBehind (script : WriteScript) (size : Nat) :
    script.Takes size ∨ ∃ before error, script.EndsBehind size before error := by
  induction script generalizing size with
  | nil => exact .inl ⟨[], [], rfl, List.forall_mem_nil _, .inl rfl⟩
  | cons event rest ih =>
    obtain goesOn | ⟨error, ends⟩ := event.goesOn_or_endsWith
    · have all {before : WriteScript} (others : ∀ other ∈ before, other.GoesOn) :
          ∀ other ∈ event :: before, other.GoesOn := List.forall_mem_cons.mpr ⟨goesOn, others⟩
      obtain ⟨before, after, rfl, others, last⟩ | ⟨before, error, next, after, rfl, others, left,
        ends⟩ := ih (size - event.room)
      · refine .inl ⟨event :: before, after, rfl, all others, last.imp_right fun enough => ?_⟩
        rw [room]
        omega
      · refine .inr ⟨event :: before, error, next, after, rfl, all others, ?_, ends⟩
        rw [room]
        omega
    · by_cases none : size = 0
      · exact .inl ⟨[], event :: rest, rfl, List.forall_mem_nil _, .inr (Nat.le_of_eq none)⟩
      · exact .inr ⟨[], error, event, rest, rfl, List.forall_mem_nil _, Nat.pos_of_ne_zero none,
          ends⟩

end WriteScript

namespace Delivery

variable {flush : Option SystemError} {bytes : Bytes}

/-- Nothing is in front of a delivery. -/
@[simp] theorem after_nil (delivery : Delivery) : delivery.after [] = delivery := rfl

/-- What is taken before a delivery is taken one after the other. -/
theorem after_after (delivery : Delivery) (first second : Bytes) :
    (delivery.after second).after first = delivery.after (first ++ second) := by
  unfold after
  rw [List.append_assoc]

/-- Behind the last write, all is taken. -/
theorem run_nil (flush : Option SystemError) (bytes : Bytes) :
    run flush bytes [] = (finish flush).after bytes := by
  cases bytes with
  | nil => rfl
  | cons first rest => rfl

/-- With nothing left, no write is made. -/
@[simp] theorem run_nothing (flush : Option SystemError) (script : WriteScript) :
    run flush [] script = finish flush := by
  cases script with
  | nil => rfl
  | cons event rest => rfl

/-- A write that goes on takes what it has room for. -/
theorem run_of_goesOn {event : WriteEvent} (goesOn : event.GoesOn) (rest : WriteScript) :
    run flush bytes (event :: rest) =
      (run flush (bytes.drop event.room) rest).after (bytes.take event.room) := by
  cases bytes with
  | nil => simp
  | cons first more =>
    cases event with
    | accepts count =>
      cases count with
      | zero => exact absurd goesOn (Nat.lt_irrefl 0)
      | succ count => rfl
    | fails error =>
      have interrupted : error.isInterrupted = true := decide_eq_true goesOn
      simp only [run, if_pos interrupted]
      rfl

/-- A write that ends the delivery takes nothing of what is left. -/
theorem run_of_endsWith {event : WriteEvent} {error : SystemError} (ends : event.EndsWith error)
    (left : bytes ≠ []) (rest : WriteScript) : run flush bytes (event :: rest) = stop error := by
  obtain ⟨first, more, rfl⟩ := List.exists_cons_of_ne_nil left
  cases ends with
  | nothing => rfl
  | failure final =>
    have not_interrupted : ¬ error.isInterrupted = true := fun found => final (of_decide_eq_true found)
    simp only [run, if_neg not_interrupted]

/-- Writes that go on take what they have room for, and the rest of the script goes on behind
them. -/
theorem run_append {before : WriteScript} (goOn : ∀ event ∈ before, event.GoesOn)
    (rest : WriteScript) :
    run flush bytes (before ++ rest) =
      (run flush (bytes.drop before.room) rest).after (bytes.take before.room) := by
  induction before generalizing bytes with
  | nil => rfl
  | cons event before ih =>
    obtain ⟨first, others⟩ := List.forall_mem_cons.mp goOn
    rw [List.cons_append, run_of_goesOn first, ih others, after_after, WriteScript.room,
      List.take_add, List.drop_drop]

/-- A script that takes the bytes has them taken and the connection flushed. -/
theorem run_of_takes {script : WriteScript} (takes : script.Takes bytes.length) :
    run flush bytes script = (finish flush).after bytes := by
  obtain ⟨before, after, rfl, goOn, last⟩ := takes
  rw [run_append goOn]
  obtain rfl | enough := last
  · rw [run_nil, after_after, List.take_append_drop]
  · rw [List.drop_of_length_le enough, List.take_of_length_le enough, run_nothing]

/-- A delivery that ends behind some writes has taken what they have room for. -/
theorem run_of_endsBehind {script before : WriteScript} {error : SystemError}
    (ends : script.EndsBehind bytes.length before error) :
    run flush bytes script = (stop error).after (bytes.take before.room) := by
  obtain ⟨event, after, rfl, goOn, fewer, ends⟩ := ends
  have left : bytes.drop before.room ≠ [] := by
    rw [ne_eq, List.drop_eq_nil_iff]
    omega
  rw [run_append goOn, run_of_endsWith ends left]

/-- The bytes taken are the front of the bytes to be written. -/
theorem run_written_prefix (flush : Option SystemError) (bytes : Bytes) (script : WriteScript) :
    (run flush bytes script).written <+: bytes := by
  obtain takes | ⟨before, error, ends⟩ := script.takes_or_endsBehind bytes.length
  · rw [run_of_takes takes]
    exact ⟨[], by simp [after, finish]⟩
  · rw [run_of_endsBehind ends]
    exact ⟨bytes.drop before.room, by simp [after, stop]⟩

/-- A delivery that succeeds has had all bytes taken. -/
theorem run_written_of_ok (flush : Option SystemError) (bytes : Bytes) (script : WriteScript)
    (succeeds : (run flush bytes script).result = .ok ()) :
    (run flush bytes script).written = bytes := by
  obtain takes | ⟨before, error, ends⟩ := script.takes_or_endsBehind bytes.length
  · rw [run_of_takes takes]
    exact List.append_nil bytes
  · rw [run_of_endsBehind ends] at succeeds
    exact nomatch succeeds

/-- A delivery that ends before leaves some bytes. -/
theorem run_written_ne {script before : WriteScript} {error : SystemError}
    (ends : script.EndsBehind bytes.length before error) :
    (run flush bytes script).written ≠ bytes := by
  intro whole
  obtain ⟨-, -, -, -, fewer, -⟩ := id ends
  rw [run_of_endsBehind ends] at whole
  have length : (bytes.take before.room ++ []).length = bytes.length := congrArg _ whole
  rw [List.append_nil, List.length_take] at length
  omega

/-- All bytes are taken exactly if the script takes them. -/
theorem run_written_eq_iff {script : WriteScript} :
    (run flush bytes script).written = bytes ↔ script.Takes bytes.length := by
  constructor
  · intro whole
    obtain takes | ⟨before, error, ends⟩ := script.takes_or_endsBehind bytes.length
    · exact takes
    · exact absurd whole (run_written_ne ends)
  · intro takes
    rw [run_of_takes takes]
    exact List.append_nil bytes

/-- The connection is flushed once if all bytes are taken, and otherwise never. -/
theorem run_flushes (flush : Option SystemError) (bytes : Bytes) (script : WriteScript) :
    (run flush bytes script).flushes = if (run flush bytes script).written = bytes then 1 else 0 := by
  obtain takes | ⟨before, error, ends⟩ := script.takes_or_endsBehind bytes.length
  · rw [if_pos (run_written_eq_iff.mpr takes), run_of_takes takes]
    rfl
  · rw [if_neg (run_written_ne ends), run_of_endsBehind ends]
    rfl

/-- Only with all bytes taken a delivery can succeed, and then the flush decides. -/
theorem run_result_ok_iff {script : WriteScript} :
    (run flush bytes script).result = .ok () ↔
      (run flush bytes script).written = bytes ∧ flush = none := by
  obtain takes | ⟨before, error, ends⟩ := script.takes_or_endsBehind bytes.length
  · rw [run_written_eq_iff, run_of_takes takes]
    cases flush with
    | none => exact iff_of_true rfl ⟨takes, rfl⟩
    | some error => exact iff_of_false (fun succeeds => nomatch succeeds) (fun found => nomatch found.2)
  · have fails : (run flush bytes script).result = .error error := by
      rw [run_of_endsBehind ends]
      rfl
    rw [fails]
    exact iff_of_false (fun succeeds => nomatch succeeds) fun found => run_written_ne ends found.1

/-- A delivery fails with the error of the flush, or with that of the write that ends it. -/
theorem run_result_error_iff {script : WriteScript} {error : SystemError} :
    (run flush bytes script).result = .error error ↔
      (run flush bytes script).written = bytes ∧ flush = some error ∨
      ∃ before, script.EndsBehind bytes.length before error ∧
        (run flush bytes script).written = bytes.take before.room := by
  constructor
  · intro fails
    obtain takes | ⟨before, other, ends⟩ := script.takes_or_endsBehind bytes.length
    · refine .inl ⟨run_written_eq_iff.mpr takes, ?_⟩
      rw [run_of_takes takes] at fails
      cases flush with
      | none => exact nomatch fails
      | some other =>
        obtain rfl := Except.error.inj fails
        rfl
    · rw [run_of_endsBehind ends] at fails
      obtain rfl := Except.error.inj fails
      refine .inr ⟨before, ends, ?_⟩
      rw [run_of_endsBehind ends]
      exact List.append_nil _
  · rintro (⟨whole, rfl⟩ | ⟨before, ends, -⟩)
    · rw [run_of_takes (run_written_eq_iff.mp whole)]
      rfl
    · rw [run_of_endsBehind ends]
      rfl

end Delivery

/-- The delivery of a frame takes the front of its bytes. -/
theorem Frame.deliver_written_prefix (frame : Frame) (script : WriteScript)
    (flush : Option SystemError) : (frame.deliver script flush).written <+: frame.encode :=
  Delivery.run_written_prefix flush frame.encode script

/-- A frame that is delivered has had all of its bytes taken. -/
theorem Frame.deliver_written_of_ok (frame : Frame) (script : WriteScript)
    (flush : Option SystemError) (succeeds : (frame.deliver script flush).result = .ok ()) :
    (frame.deliver script flush).written = frame.encode :=
  Delivery.run_written_of_ok flush frame.encode script succeeds

/-- Whatever the writes of a connection do, the bytes it takes are the front of the frame: all of it
exactly if no write ends the delivery as long as bytes are left. Then, and only then, the connection
is flushed, once, and the delivery succeeds if the flush does. It fails with the error of the flush,
or with that of the write that ends it: one that takes nothing, or one that fails without having
been interrupted. -/
theorem Frame.deliver_wholeOrFront (frame : Frame) (script : WriteScript)
    (flush : Option SystemError) :
    let delivery := frame.deliver script flush
    delivery.written <+: frame.encode ∧
    (delivery.written = frame.encode ↔ script.Takes frame.encode.length) ∧
    delivery.flushes = (if delivery.written = frame.encode then 1 else 0) ∧
    (delivery.result = .ok () ↔ delivery.written = frame.encode ∧ flush = none) ∧
    (∀ error, delivery.result = .error error ↔
      delivery.written = frame.encode ∧ flush = some error ∨
      ∃ before, script.EndsBehind frame.encode.length before error ∧
        delivery.written = frame.encode.take before.room) ∧
    (∀ before error, script.EndsBehind frame.encode.length before error →
      error.errorKind ≠ .interrupted) ∧
    wroteNothing.errorKind = .writeZero := by
  refine ⟨frame.deliver_written_prefix script flush, Delivery.run_written_eq_iff,
    Delivery.run_flushes flush frame.encode script, Delivery.run_result_ok_iff,
    fun error => Delivery.run_result_error_iff, ?_, rfl⟩
  rintro before error ⟨event, after, -, -, -, ends⟩
  exact ends.not_interrupted

/-- A write that takes one byte, one that was interrupted and one that takes nothing: what was taken
is the first byte of the token. -/
example : ((Frame.mk .signRequest none).deliver
    [.accepts 1, .fails (.kind .interrupted), .accepts 0, .accepts 50] none).written = [0x5F] := by
  decide +kernel

/-- How the response with an index is taken. -/
def Connection.outlet (connection : Connection) (index : Nat) : Outlet :=
  connection.outgoing.getD index {}

/-- A response is sent through the first outlet left, which is then used up. -/
theorem Connection.send_eq (connection : Connection) (frame : Frame) :
    connection.send frame =
      (frame.deliver (connection.outlet 0).writes (connection.outlet 0).flush,
        { connection with outgoing := connection.outgoing.drop 1 }) := by
  unfold send outlet
  cases left : connection.outgoing with
  | nil =>
    simp only [List.getD_nil, List.drop_nil, Prod.mk.injEq, true_and]
    rw [← left]
  | cons outlet rest => rfl

end ThresholdDaemon
