import ThresholdDaemon.Connection

/-!
# Receptions

The calls that receive a frame from a connection are numbered from the first one on. Behind a frame
and behind a wait that was given up the next call is made; such a call has used up something of what
the reads find, unless there was nothing and the peer may still write.
-/
namespace ThresholdDaemon

/-- What one call that receives a frame gives. -/
abbrev Reception := Except ReceiveError (Option Bytes)

namespace Reception

/-- The frame received, if there is one. -/
def frame? : Reception → Option Bytes
  | .ok received => received
  | .error _ => none

/-- Another call follows: a frame was received or a wait was given up. -/
def goesOn : Reception → Bool
  | .ok received => received.isSome
  | .error error => error.isTimeout

end Reception

namespace Connection

/-- The first calls that receive a frame: what they give, and what is left then. -/
def receptions (connection : Connection) (limit : Nat) :
    Nat → List Reception × FrameBuffer × Connection
  | 0 => ([], { limit }, connection)
  | count + 1 =>
    let (heard, buffer, connection) := connection.receptions limit count
    let (result, buffer, connection) := connection.receive buffer
    (heard ++ [result], buffer, connection)

/-- Receiving changes nothing of a connection but what the next reads find. -/
theorem receptions_connection (connection : Connection) (limit count : Nat) :
    (connection.receptions limit count).2.2 =
      { connection with incoming := (connection.receptions limit count).2.2.incoming } := by
  induction count with
  | zero => rfl
  | succ count ih =>
    simp only [receptions]
    rw [ih]
    rfl

end Connection

namespace FrameBuffer

/-- The buffer for a limit can be allocated exactly if the limit is below the largest
allocation, as the buffer has one byte more. -/
theorem capacityFor_le_iff {limit : Nat} :
    capacityFor limit ≤ allocationMax ↔ limit < allocationMax := by
  unfold capacityFor allocationMax wordMax wordCount halfWordCount
  omega

/-- Receiving keeps the limit of a buffer. -/
theorem receive_limit (buffer : FrameBuffer) (script : ReadScript) :
    (buffer.receive script).2.1.limit = buffer.limit := by
  induction script with
  | nil => rfl
  | cons event rest ih =>
    cases event with
    | fails error =>
      by_cases interrupted : error.isInterrupted
      · simpa only [receive, if_pos interrupted] using ih
      · simp only [receive, if_neg interrupted]
    | ready bytes =>
      simp only [receive, ReadScript.read]
      by_cases fits : bytes.length ≤ buffer.capacity
      · simp only [if_pos fits]
        rfl
      · simp only [if_neg fits]
        rfl

/-- A read keeps the limit of a buffer. -/
@[simp] theorem store_limit (buffer : FrameBuffer) (bytes : Bytes) :
    (buffer.store bytes).limit = buffer.limit := rfl

/-- Bytes that fit the limit are received as one frame, whatever earlier reads have left. -/
theorem receive_ready {buffer : FrameBuffer} {bytes : Bytes} (present : bytes ≠ [])
    (fits : bytes.length ≤ buffer.limit) (addressable : buffer.limit ≤ wordMax)
    (rest : ReadScript) :
    buffer.receive (.ready bytes :: rest) = (.ok (some bytes), buffer.store bytes, rest) := by
  have whole : bytes.length ≤ buffer.capacity := by
    simp only [capacity, capacityFor]
    omega
  have found : bytes.length ≠ 0 := fun none => present (List.length_eq_zero_iff.mp none)
  have same : (buffer.store bytes).front bytes.length = bytes := List.take_left
  simp only [receive, ReadScript.read, if_pos whole, accept, if_neg found, store_limit, same]
  rw [if_neg (Nat.not_lt.mpr fits)]

/-- A frame fits a limit, and every buffer with that limit receives it as it is. -/
structure Accepts (limit : Nat) (frame : Bytes) : Prop where
  /-- The frame is no longer than the limit. -/
  fits : frame.length ≤ limit
  /-- A buffer with the limit receives it, whatever earlier reads have left and find afterwards. -/
  received (stored : Bytes) (rest : ReadScript) :
    (receive { limit, stored } (.ready frame :: rest)).1 = .ok (some frame)

/-- Bytes beyond the limit are not received. -/
theorem receive_tooLarge {buffer : FrameBuffer} {bytes : Bytes}
    (long : buffer.limit < bytes.length) (small : buffer.limit < wordMax) (rest : ReadScript) :
    (buffer.receive (.ready bytes :: rest)).1 = .error (.frameTooLarge buffer.limit) := by
  have capacity : buffer.capacity = buffer.limit + 1 := by
    simp only [FrameBuffer.capacity, capacityFor]
    omega
  have refused {count : Nat} (more : buffer.limit < count) (found : Bytes) :
      (buffer.store found).accept count = .error (.frameTooLarge buffer.limit) := by
    rw [accept, if_neg (Nat.ne_zero_of_lt more), store_limit, if_pos more]
  simp only [receive, ReadScript.read]
  by_cases whole : bytes.length ≤ buffer.capacity
  · simp only [if_pos whole]
    exact refused long bytes
  · -- A read that fills the buffer gives one byte more than a frame may have.
    have full : (bytes.take buffer.capacity).length = buffer.limit + 1 := by
      rw [List.length_take, capacity]
      omega
    simp only [if_neg whole, full]
    exact refused (Nat.lt_succ_self _) _

/-- Behind a frame or a wait that was given up, less is left to be read. -/
theorem receive_shrinks (buffer : FrameBuffer) (script : ReadScript)
    (small : buffer.limit < wordMax) (goesOn : Reception.goesOn (buffer.receive script).1) :
    (buffer.receive script).2.2.length < script.length := by
  induction script with
  | nil => simp [receive, Reception.goesOn] at goesOn
  | cons event rest ih =>
    cases event with
    | fails error =>
      by_cases interrupted : error.isInterrupted
      · simp only [receive, if_pos interrupted] at goesOn ⊢
        exact Nat.lt_succ_of_lt (ih goesOn)
      · simp only [receive, if_neg interrupted, List.length_cons]
        omega
    | ready bytes =>
      by_cases fits : bytes.length ≤ buffer.capacity
      · simp only [receive, ReadScript.read, if_pos fits, List.length_cons]
        omega
      · have long : buffer.limit < bytes.length := by
          simp only [capacity, capacityFor] at fits
          omega
        rw [receive_tooLarge long small] at goesOn
        exact absurd goesOn Bool.false_ne_true

end FrameBuffer

end ThresholdDaemon
