import ThresholdDaemon.Json.Convert

/-!
# Values are converted back

A byte or a word that is written as a value is what the value converts to, and as many values as an
array shall have convert to what they were written from.
-/
namespace ThresholdDaemon

/-- What is done behind something succeeds exactly if both succeed. -/
theorem bind_eq_ok {ε α β : Type} {first : Except ε α} {behind : α → Except ε β} {value : β} :
    first >>= behind = .ok value ↔ ∃ a, first = .ok a ∧ behind a = .ok value := by
  cases first with
  | error error => simp [bind, Except.bind]
  | ok a => simp [bind, Except.bind]

namespace Json.Value

variable {α β : Type}

/-- Values that are read back one by one are read back together. -/
theorem mapM_map_ok {item : Value → Except Cause α} {write : α → Value}
    (back : ∀ a, item (write a) = .ok a) (items : List α) :
    (items.map write).mapM item = .ok items := by
  induction items with
  | nil => rfl
  | cons first rest ih =>
    rw [List.map_cons, List.mapM_cons, back, ih]
    rfl

/-- As many values as an array shall have are read back from it. -/
theorem toTuple_map {item : Value → Except Cause α} {write : α → Value}
    (back : ∀ a, item (write a) = .ok a) (items : List α) (expected : String)
    (make : List α → Except Cause β) :
    toTuple item items.length expected make (.array (items.map write)) = make items := by
  have whole : ((items.map write).take items.length).mapM item = .ok items := by
    rw [← List.length_map write, List.take_length]
    exact mapM_map_ok back items
  unfold toTuple
  show (((items.map write).take items.length).mapM item >>= _ : Except Cause β) = make items
  rw [whole]
  show (if items.length < items.length then _ else _ : Except Cause β) = make items
  rw [if_neg (Nat.lt_irrefl _)]
  cases made : make items with
  | error cause => rfl
  | ok value =>
    show (if items.length < (items.map write).length then _ else _ : Except Cause β) = .ok value
    rw [List.length_map, if_neg (Nat.lt_irrefl _)]

/-- A byte is read back. -/
theorem toByte_ofNat (byte : UInt8) : toByte (.ofNat byte.toNat) = .ok byte := by
  have small : byte.toNat < 256 := byte.toNat_lt
  have same : (UInt64.ofNat byte.toNat).toNat = byte.toNat := by
    rw [UInt64.toNat_ofNat']
    omega
  unfold toByte ofNat ofWord toNatural
  simp only [same, if_pos small]
  exact congrArg Except.ok UInt8.ofNat_toNat

/-- A word is read back. -/
theorem toWord64_ofWord (word : UInt64) : toWord64 (.ofWord word) = .ok word := by
  have small : word.toNat < wordCount := word.toNat_lt
  unfold toWord64 ofWord toNatural
  simp only [if_pos small]
  exact congrArg Except.ok UInt64.ofNat_toNat

end Json.Value

end ThresholdDaemon
