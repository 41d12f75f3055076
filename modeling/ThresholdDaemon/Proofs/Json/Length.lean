import Mathlib.Algebra.Group.Action.Defs
import Mathlib.Algebra.Order.BigOperators.Group.List
import Mathlib.Algebra.Order.Ring.Nat
import ThresholdDaemon.Dispatch.Deal

/-!
# Lengths of printed text

The bytes of a printed document are counted part by part: a comma stands between every two elements,
a text has two quotes around what stands between them, and no number has more digits than a greater
one.
-/
namespace ThresholdDaemon

/-- No characters have no bytes. -/
@[simp] theorem byteLength_nil : byteLength [] = 0 := rfl

/-- The bytes of the first character are counted on their own. -/
@[simp] theorem byteLength_cons (c : Char) (text : List Char) :
    byteLength (c :: text) = c.utf8Size + byteLength text := by
  unfold byteLength Utf8.encode
  rw [List.flatMap_cons, List.length_append, String.length_utf8EncodeChar]

/-- The bytes of two texts are counted one after the other. -/
@[simp] theorem byteLength_append (front behind : List Char) :
    byteLength (front ++ behind) = byteLength front + byteLength behind := by
  unfold byteLength Utf8.encode
  rw [List.flatMap_append, List.length_append]

/-- One character several times has its bytes as often. -/
theorem byteLength_replicate (count : Nat) (c : Char) :
    byteLength (List.replicate count c) = count * c.utf8Size := by
  induction count with
  | zero => rw [List.replicate_zero, byteLength_nil, Nat.zero_mul]
  | succ count ih => rw [List.replicate_succ, byteLength_cons, ih, Nat.succ_mul, Nat.add_comm]

/-- A frame is as long as its token, the delimiter and its payload. -/
theorem Frame.length_encode (call : Call) (payload : List Char) :
    (Frame.encode ⟨call, some (String.ofList payload)⟩).length =
      byteLength call.token.toList + 1 + byteLength payload := by
  unfold Frame.encode encodeFrame byteLength
  simp only [Option.map_some, Bytes.ofString, String.toList_ofList, List.length_append,
    List.length_cons]
  omega

namespace Json

/-- A text has two quotes around what stands between them. -/
theorem Literal.byteLength_print (text : String) :
    byteLength (Literal.print text) = byteLength (escaped text.toList) + 2 := by
  have quote : ('"').utf8Size = 1 := rfl
  simp only [Literal.print, byteLength_append, byteLength_cons, byteLength_nil, quote]
  omega

/-- Between quotes, one character several times has the bytes of its escape as often. -/
theorem Literal.byteLength_escaped_replicate (count : Nat) (c : Char) :
    byteLength (escaped (List.replicate count c)) = count * byteLength (escapeChar c) := by
  unfold escaped
  induction count with
  | zero => rw [List.replicate_zero, List.flatMap_nil, byteLength_nil, Nat.zero_mul]
  | succ count ih =>
    rw [List.replicate_succ, List.flatMap_cons, byteLength_append, ih, Nat.succ_mul, Nat.add_comm]

/-- Every digit of a number has one byte. -/
theorem Numeral.byteLength_decimal (n : Nat) : byteLength (decimal n) = (decimal n).length := by
  have digits : ∀ c ∈ decimal n, c.isDigit := fun c member =>
    Nat.isDigit_of_mem_toDigits (by decide) (by decide) member
  generalize decimal n = text at digits
  induction text with
  | nil => rfl
  | cons c rest ih =>
    obtain ⟨digit, others⟩ := List.forall_mem_cons.mp digits
    have ascii : c.utf8Size = 1 := by
      rw [Char.utf8Size_eq_one_iff]
      simp only [Char.isDigit, Bool.and_eq_true, decide_eq_true_eq] at digit
      exact UInt32.le_trans digit.2 (by decide)
    rw [byteLength_cons, ih others, ascii, List.length_cons, Nat.add_comm]

/-- The numbers below a power of ten are those with few digits. -/
theorem Numeral.byteLength_decimal_le_iff {n count : Nat} (positive : 0 < count) :
    byteLength (decimal n) ≤ count ↔ n < 10 ^ count := by
  rw [byteLength_decimal]
  exact Nat.length_toDigits_le_iff (by decide) positive

/-- No number has more digits than a greater one. -/
theorem Numeral.byteLength_decimal_mono {m n : Nat} (below : m ≤ n) :
    byteLength (decimal m) ≤ byteLength (decimal n) := by
  have positive : 0 < byteLength (decimal n) := by
    rw [byteLength_decimal]
    exact Nat.length_toDigits_pos
  rw [byteLength_decimal_le_iff positive]
  exact Nat.lt_of_le_of_lt below ((byteLength_decimal_le_iff positive).mp (Nat.le_refl _))

/-- Between every two of some texts there is one comma. -/
theorem byteLength_separated (items : List (List Char)) :
    byteLength (separated items) = (items.map byteLength).sum + (items.length - 1) := by
  have comma : (',').utf8Size = 1 := rfl
  fun_induction separated items with
  | case1 => rfl
  | case2 one => rfl
  | case3 one more several ih =>
    have some_more : more.length ≠ 0 := fun none => several (List.length_eq_zero_iff.mp none)
    simp only [byteLength_append, byteLength_cons, comma, ih, List.map_cons, List.sum_cons,
      List.length_cons]
    omega

/-- The bytes of an array, with its brackets. -/
theorem byteLength_printArray (items : List (List Char)) :
    byteLength (printArray items) = (items.map byteLength).sum + (items.length - 1) + 2 := by
  have opening : ('[').utf8Size = 1 := rfl
  have closing : (']').utf8Size = 1 := rfl
  simp only [printArray, byteLength_append, byteLength_cons, byteLength_nil, byteLength_separated,
    opening, closing]
  omega

/-- The bytes of an array whose elements have a most number of bytes. -/
theorem byteLength_printArray_le {items : List (List Char)} {most : Nat}
    (each : ∀ item ∈ items, byteLength item ≤ most) :
    byteLength (printArray items) ≤ items.length * most + (items.length - 1) + 2 := by
  have sum : (items.map byteLength).sum ≤ (items.map byteLength).length • most :=
    List.sum_le_card_nsmul _ _ (List.forall_mem_map.mpr each)
  rw [List.length_map, smul_eq_mul] at sum
  rw [byteLength_printArray]
  omega

/-- The bytes of an object, with its braces and those of every member with its colon. -/
theorem byteLength_printObject (members : List (String × List Char)) :
    byteLength (printObject members) =
      (members.map fun (key, value) =>
        byteLength (Literal.print key) + 1 + byteLength value).sum + (members.length - 1) + 2 := by
  have opening : ('\x7b').utf8Size = 1 := rfl
  have closing : ('\x7d').utf8Size = 1 := rfl
  have colon : (':').utf8Size = 1 := rfl
  have member (key : String) (value : List Char) : byteLength (printMember key value) =
      byteLength (Literal.print key) + 1 + byteLength value := by
    rw [printMember, byteLength_append, byteLength_cons, colon, Nat.add_assoc]
  simp only [printObject, byteLength_append, byteLength_cons, byteLength_nil, byteLength_separated,
    List.map_map, Function.comp_def, member, List.length_map, opening, closing]
  omega

end Json

end ThresholdDaemon
