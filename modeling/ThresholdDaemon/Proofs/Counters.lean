import ThresholdDaemon.Counters

/-!
# Counting

Counting several things adds to each counter how often it occurs among them, modulo the number of
machine words, whatever their order.
-/
namespace ThresholdDaemon.Counters

/-- Counting one thing adds one to its counter and nothing to the others. -/
theorem get_record (counters : Counters) (counted counter : Counter) :
    (counters.record counted).get counter =
      counters.get counter + UInt64.ofNat ([counted].count counter) := by
  cases counted <;> cases counter <;> simp [record, get]

/-- Counting things adds to each counter how often it occurs among them. -/
theorem get_recordAll (counters : Counters) (counted : List Counter) (counter : Counter) :
    (counters.recordAll counted).get counter =
      counters.get counter + UInt64.ofNat (counted.count counter) := by
  induction counted generalizing counters with
  | nil => simp [recordAll]
  | cons first rest ih =>
    have behind := ih (counters.record first)
    rw [get_record, UInt64.add_assoc, ← UInt64.ofNat_add, ← List.count_append] at behind
    exact behind

/-- Counting some things and then others is counting all of them. -/
theorem recordAll_append (counters : Counters) (first second : List Counter) :
    counters.recordAll (first ++ second) = (counters.recordAll first).recordAll second :=
  List.foldl_append

end ThresholdDaemon.Counters
