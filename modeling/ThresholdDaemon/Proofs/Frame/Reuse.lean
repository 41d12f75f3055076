import ThresholdDaemon.Proofs.Frame.Receive

/-!
# A buffer that is used again

Calls that receive frames one after the other share a buffer, which is never cleared. Each of them
makes reads up to the first one that was not interrupted, and that read alone decides what the call
gives: a frame is all the bytes that it handed out, whatever earlier frames have left in the buffer.
A read that hands out more than the limit has filled the buffer and is refused. So the frames and
the reads that were refused are, in order, exactly the bytes taken from the connection.
-/
namespace ThresholdDaemon

/-- The bytes that wait to be read. -/
def ReadEvent.waiting : ReadEvent → Bytes
  | ready bytes => bytes
  | fails _ => []

namespace ReadResult

/-- The bytes that a read hands out. -/
def taken : ReadResult → Bytes
  | bytes found => found
  | error _ => []

/-- What a read that was not interrupted gives under a limit. -/
def reception (limit : Nat) : ReadResult → Reception
  | bytes found =>
    if found = [] then .ok none
    else if limit < found.length then .error (.frameTooLarge limit)
    else .ok (some found)
  | error fault => .error (.failed fault)

variable {limit : Nat} {found : ReadResult}

/-- Nothing handed out is the end. -/
theorem reception_eq_ended_iff : found.reception limit = .ok none ↔ found = .bytes [] := by
  cases found with
  | error fault => simp [reception]
  | bytes found => grind [reception]

/-- Bytes that the limit allows are a frame. -/
theorem reception_eq_frame_iff {frame : Bytes} :
    found.reception limit = .ok (some frame) ↔
      found = .bytes frame ∧ 1 ≤ frame.length ∧ frame.length ≤ limit := by
  cases found with
  | error fault => simp [reception]
  | bytes found => grind [reception]

/-- More bytes than the limit are refused. -/
theorem reception_eq_tooLarge_iff {bound : Nat} :
    found.reception limit = .error (.frameTooLarge bound) ↔
      bound = limit ∧ limit < found.taken.length := by
  cases found with
  | error fault => simp [reception, taken]
  | bytes found => grind [reception, taken]

/-- Errors are handed on. -/
theorem reception_eq_failed_iff {error : SystemError} :
    found.reception limit = .error (.failed error) ↔ found = .error error := by
  cases found with
  | error fault => simp [reception]
  | bytes found => grind [reception]

/-- Only errors of two kinds are waits that were given up. -/
theorem reception_isTimeout_iff :
    (∃ error, found.reception limit = .error error ∧ error.isTimeout = true) ↔
      ∃ error, found = .error error ∧
        (error.errorKind = .wouldBlock ∨ error.errorKind = .timedOut) := by
  have kinds (error : SystemError) : (ReceiveError.failed error).isTimeout = true ↔
      error.errorKind = .wouldBlock ∨ error.errorKind = .timedOut := by
    show error.isTimeout = true ↔ _
    rw [SystemError.isTimeout, Bool.or_eq_true, decide_eq_true_eq, decide_eq_true_eq]
  constructor
  · rintro ⟨error, given, timeout⟩
    cases error with
    | frameTooLarge bound => exact nomatch timeout
    | failed error => exact ⟨error, reception_eq_failed_iff.mp given, (kinds error).mp timeout⟩
  · rintro ⟨error, given, kind⟩
    exact ⟨_, reception_eq_failed_iff.mpr given, (kinds error).mpr kind⟩

end ReadResult

namespace ReadScript

/-- All bytes that wait to be read, in order. -/
def waiting (script : ReadScript) : Bytes := script.flatMap ReadEvent.waiting

/-- Some reads into a buffer hand out these results, in order, and leave the rest of the script. -/
inductive Gives (capacity : Nat) : ReadScript → List ReadResult → ReadScript → Prop
  /-- No read is made. -/
  | nil (script : ReadScript) : Gives capacity script [] script
  /-- One read is made and then the others. -/
  | cons {script next rest : ReadScript} {result : ReadResult} {results : List ReadResult}
    (first : script.read capacity = (result, next)) (others : Gives capacity next results rest) :
    Gives capacity script (result :: results) rest

/-- Reads follow others. -/
theorem Gives.append {capacity : Nat} {script next rest : ReadScript}
    {first second : List ReadResult} (before : Gives capacity script first next)
    (behind : Gives capacity next second rest) : Gives capacity script (first ++ second) rest := by
  induction before with
  | nil script => exact behind
  | cons one others ih => exact .cons one (ih behind)

/-- A read hands out no more than fits the buffer, and takes it off the front of the bytes that
wait. -/
theorem taken_of_read {capacity : Nat} {script next : ReadScript} {result : ReadResult}
    (reads : script.read capacity = (result, next)) :
    result.taken.length ≤ capacity ∧ script.waiting = result.taken ++ next.waiting := by
  cases script with
  | nil =>
    obtain ⟨rfl, rfl⟩ := Prod.mk.inj reads
    exact ⟨Nat.zero_le _, rfl⟩
  | cons event rest =>
    cases event with
    | fails error =>
      obtain ⟨rfl, rfl⟩ := Prod.mk.inj reads
      exact ⟨Nat.zero_le _, rfl⟩
    | ready bytes =>
      by_cases whole : bytes.length ≤ capacity
      · rw [read, if_pos whole] at reads
        obtain ⟨rfl, rfl⟩ := Prod.mk.inj reads
        exact ⟨whole, rfl⟩
      · -- What does not fit stays in front of the rest.
        rw [read, if_neg whole] at reads
        obtain ⟨rfl, rfl⟩ := Prod.mk.inj reads
        refine ⟨List.length_take_le _ _, ?_⟩
        show bytes ++ waiting rest = bytes.take capacity ++ (bytes.drop capacity ++ waiting rest)
        rw [← List.append_assoc, List.take_append_drop]

/-- Reads take what they hand out off the front of the bytes that wait. -/
theorem Gives.waiting_eq {capacity : Nat} {script rest : ReadScript} {results : List ReadResult}
    (gives : Gives capacity script results rest) :
    script.waiting = results.flatMap ReadResult.taken ++ rest.waiting := by
  induction gives with
  | nil script => rfl
  | cons one others ih =>
    rw [(taken_of_read one).2, ih, List.flatMap_cons, List.append_assoc]

/-- A read of bytes that are ready hands out some of them. -/
theorem exists_read_ready (capacity : Nat) (bytes : Bytes) (rest : ReadScript) :
    ∃ found next, read capacity (.ready bytes :: rest) = (.bytes found, next) := by
  by_cases whole : bytes.length ≤ capacity
  · exact ⟨bytes, rest, if_pos whole⟩
  · exact ⟨bytes.take capacity, .ready (bytes.drop capacity) :: rest, if_neg whole⟩

end ReadScript

/-- A call that receives a frame. -/
structure Receiving where
  /-- The errors of the reads that were interrupted. -/
  interruptions : List SystemError
  /-- What the read behind them found. -/
  found : ReadResult
  /-- What the call gives. -/
  result : Reception

namespace Receiving

/-- What the reads of a call hand out, in order. -/
def reads (call : Receiving) : List ReadResult :=
  call.interruptions.map .error ++ [call.found]

/-- The bytes that a call accounts for: its frame, or the read that it refused. -/
def accounted (call : Receiving) : Bytes :=
  match call.result with
  | .ok (some frame) => frame
  | .error (.frameTooLarge _) => call.found.taken
  | .ok none | .error (.failed _) => []

/-- A call makes reads up to the first one that was not interrupted, and that one decides what it
gives under a limit. -/
structure Heeds (call : Receiving) (limit : Nat) : Prop where
  /-- All reads but the last one were interrupted. -/
  interrupted : ∀ error ∈ call.interruptions, error.errorKind = .interrupted
  /-- The last one was not. -/
  final : ∀ error, call.found = .error error → error.errorKind ≠ .interrupted
  /-- It hands out at most one byte more than the limit. -/
  fits : call.found.taken.length ≤ limit + 1
  /-- The peer has stopped writing exactly if the read hands out nothing. -/
  ended : call.result = .ok none ↔ call.found = .bytes []
  /-- A frame is all the bytes that the read hands out, if there are any and the limit allows
  them. -/
  received : ∀ frame, call.result = .ok (some frame) ↔
    call.found = .bytes frame ∧ 1 ≤ frame.length ∧ frame.length ≤ limit
  /-- A frame is refused exactly if the read hands out more than the limit. -/
  tooLarge : ∀ bound, call.result = .error (.frameTooLarge bound) ↔
    bound = limit ∧ limit < call.found.taken.length
  /-- An error of the read is handed on. -/
  failed : ∀ error, call.result = .error (.failed error) ↔ call.found = .error error
  /-- It is a wait that was given up exactly if it is of one of two kinds. -/
  timeout : (∃ error, call.result = .error error ∧ error.isTimeout = true) ↔
    ∃ error, call.found = .error error ∧
      (error.errorKind = .wouldBlock ∨ error.errorKind = .timedOut)

/-- A call that gives what the last read amounts to heeds its reads. -/
theorem heeds_reception {limit : Nat} {interruptions : List SystemError} {found : ReadResult}
    (interrupted : ∀ error ∈ interruptions, error.errorKind = .interrupted)
    (final : ∀ error, found = .error error → error.errorKind ≠ .interrupted)
    (fits : found.taken.length ≤ limit + 1) :
    Heeds ⟨interruptions, found, found.reception limit⟩ limit where
  interrupted := interrupted
  final := final
  fits := fits
  ended := ReadResult.reception_eq_ended_iff
  received _ := ReadResult.reception_eq_frame_iff
  tooLarge _ := ReadResult.reception_eq_tooLarge_iff
  failed _ := ReadResult.reception_eq_failed_iff
  timeout := ReadResult.reception_isTimeout_iff

/-- A call accounts for what its last read hands out. -/
theorem Heeds.accounted_eq {call : Receiving} {limit : Nat} (heeds : call.Heeds limit) :
    call.accounted = call.found.taken := by
  unfold accounted
  split
  next frame given => rw [((heeds.received frame).mp given).1, ReadResult.taken]
  next => rfl
  next given => rw [heeds.ended.mp given, ReadResult.taken]
  next error given => rw [(heeds.failed error).mp given, ReadResult.taken]

/-- Only the last read of a call hands out bytes. -/
theorem flatMap_reads (call : Receiving) :
    call.reads.flatMap ReadResult.taken = call.found.taken := by
  have none : (call.interruptions.map ReadResult.error).flatMap ReadResult.taken = [] := by
    rw [List.flatMap_eq_nil_iff]
    intro result member
    obtain ⟨error, -, rfl⟩ := List.mem_map.mp member
    rfl
  rw [reads, List.flatMap_append, none, List.nil_append, List.flatMap_singleton]

end Receiving

namespace FrameBuffer

/-- A buffer has room for one byte more than its limit. -/
theorem capacity_eq {buffer : FrameBuffer} (small : buffer.limit < wordMax) :
    buffer.capacity = buffer.limit + 1 := by
  simp only [capacity, capacityFor]
  omega

/-- A frame is what the read has written over the front of the buffer. -/
theorem accept_store (buffer : FrameBuffer) (found : Bytes) :
    (buffer.store found).accept found.length = (ReadResult.bytes found).reception buffer.limit := by
  have front : (buffer.store found).front found.length = found := List.take_left
  simp only [accept, ReadResult.reception, front, store_limit, List.length_eq_zero_iff]

/-- One call that receives a frame heeds its reads, and gives the same whatever the buffer holds. -/
theorem exists_receiving {limit : Nat} (small : limit < wordMax) (script : ReadScript) :
    ∃ (call : Receiving) (next : ReadScript), call.Heeds limit ∧
      script.Gives (limit + 1) call.reads next ∧
      ∀ stored, ∃ left,
        receive { limit, stored } script = (call.result, { limit, stored := left }, next) := by
  induction script with
  | nil =>
    refine ⟨⟨[], .bytes [], _⟩, [], Receiving.heeds_reception (List.forall_mem_nil _) ?_ ?_, ?_, ?_⟩
    · rintro _ ⟨⟩
    · exact Nat.zero_le _
    · exact .cons rfl (.nil [])
    · exact fun stored => ⟨stored, rfl⟩
  | cons event rest ih =>
    cases event with
    | fails error =>
      by_cases interrupted : error.isInterrupted = true
      · -- The call goes on with the rest of the script, and the error joins its interruptions.
        obtain ⟨call, next, heeds, gives, received⟩ := ih
        have first : error.errorKind = .interrupted := of_decide_eq_true interrupted
        refine ⟨{ call with interruptions := error :: call.interruptions }, next,
          { heeds with interrupted := List.forall_mem_cons.mpr ⟨first, heeds.interrupted⟩ },
          .cons rfl gives, fun stored => ?_⟩
        simp only [receive, if_pos interrupted]
        exact received stored
      · refine ⟨⟨[], .error error, _⟩, rest,
          Receiving.heeds_reception (List.forall_mem_nil _) ?_ ?_, ?_, fun stored => ⟨stored, ?_⟩⟩
        · rintro _ ⟨⟩ kind
          exact interrupted (decide_eq_true kind)
        · exact Nat.zero_le _
        · exact .cons rfl (.nil rest)
        · simp only [receive, if_neg interrupted]
          rfl
    | ready bytes =>
      obtain ⟨found, next, reads⟩ := ReadScript.exists_read_ready (limit + 1) bytes rest
      refine ⟨⟨[], .bytes found, _⟩, next,
        Receiving.heeds_reception (List.forall_mem_nil _) ?_ (ReadScript.taken_of_read reads).1,
        .cons reads (.nil next), fun stored => ⟨found ++ stored.drop found.length, ?_⟩⟩
      · rintro _ ⟨⟩
      · have capacity : FrameBuffer.capacity { limit, stored } = limit + 1 := capacity_eq small
        simp only [receive, capacity, reads, accept_store]
        rfl

/-- Calls that receive frames one after the other, with what is left then: they give the same
whatever the buffer holds at first, each heeds its reads, all of the reads are made in order, and
what the calls account for is what has been taken from the bytes that wait. -/
structure Receives (limit : Nat) (script : ReadScript) (calls : List Receiving)
    (rest : ReadScript) : Prop where
  /-- The calls give this. -/
  results : ∀ stored, receiveMany calls.length { limit, stored } script = calls.map (·.result)
  /-- Each makes reads up to the first one that was not interrupted, which decides. -/
  heeds : ∀ call ∈ calls, call.Heeds limit
  /-- The reads of the calls are those of the connection, in order. -/
  gives : script.Gives (limit + 1) (calls.flatMap (·.reads)) rest
  /-- Frames and refused reads are all that has been taken. -/
  accounted : script.waiting = calls.flatMap (·.accounted) ++ rest.waiting

/-- Calls are received one by one. -/
theorem exists_receives {limit : Nat} (small : limit < wordMax) (count : Nat)
    (script : ReadScript) :
    ∃ (calls : List Receiving) (rest : ReadScript), calls.length = count ∧
      Receives limit script calls rest := by
  induction count generalizing script with
  | zero =>
    exact ⟨[], script, rfl, fun stored => rfl, List.forall_mem_nil _, .nil script, rfl⟩
  | succ count ih =>
    obtain ⟨call, next, heeds, gives, received⟩ := exists_receiving small script
    obtain ⟨calls, rest, length, behind⟩ := ih next
    have waiting : script.waiting = call.accounted ++ next.waiting := by
      rw [gives.waiting_eq, call.flatMap_reads, heeds.accounted_eq]
    refine ⟨call :: calls, rest, congrArg (· + 1) length, ?_, ?_, ?_, ?_⟩
    · intro stored
      obtain ⟨left, first⟩ := received stored
      show receiveMany (calls.length + 1) _ script = _
      rw [receiveMany, first, List.map_cons]
      exact congrArg _ (behind.results left)
    · exact List.forall_mem_cons.mpr ⟨heeds, behind.heeds⟩
    · exact gives.append behind.gives
    · rw [waiting, behind.accounted, List.flatMap_cons, List.append_assoc]

/-- Below the largest size of an allocation there is a buffer for every limit, and any number of
calls that receive frames with it, of whatever is read, gives neither more nor less than the bytes
taken from the connection, in order: each call makes reads up to the first one that was not
interrupted, a frame is all the bytes of that read, and nothing that the buffer still holds ever
shows. -/
theorem receiveMany_accountedFor {limit : Nat} (small : limit < allocationMax) (count : Nat)
    (script : ReadScript) :
    create? limit = some { limit } ∧
    ∃ (calls : List Receiving) (rest : ReadScript), calls.length = count ∧
      Receives limit script calls rest := by
  have allocated : capacityFor limit ≤ allocationMax := capacityFor_le_iff.mpr small
  have addressable : limit < wordMax := Nat.lt_trans small (by decide)
  exact ⟨if_pos allocated, exists_receives addressable count script⟩

/-- Behind a frame that fills a buffer for four bytes, an interruption and five bytes of which four
fit, the byte that is left is a frame of its own, and so is a later one. -/
theorem receiveMany_accountedFor_four :
    3 < allocationMax ∧
    let script : ReadScript :=
      [.ready [1, 2, 3], .fails (.kind .interrupted), .ready [4, 5, 6, 7, 8], .ready [9]]
    ∃ (calls : List Receiving) (rest : ReadScript), Receives 3 script calls rest ∧
      calls.map (·.result) =
        [.ok (some [1, 2, 3]), .error (.frameTooLarge 3), .ok (some [8]), .ok (some [9]), .ok none] := by
  have small : 3 < allocationMax := by decide
  refine ⟨small, ?_⟩
  intro script
  obtain ⟨-, calls, rest, length, receives⟩ := receiveMany_accountedFor small 5 script
  have results := receives.results []
  rw [length] at results
  exact ⟨calls, rest, receives, results.symm.trans rfl⟩

end FrameBuffer

end ThresholdDaemon
