import ThresholdDaemon.Frame
import ThresholdDaemon.Proofs.Text.Utf8

/-!
# Frames are decoded as they were encoded

A reader takes line ends off the end of a payload, so a payload that ends with anything else arrives
as it was sent. Every printed document does.
-/
namespace ThresholdDaemon.RawFrame

/-- A text without a line feed is what stands in front of the first one. -/
theorem splitAtDelimiter_append {token : List Char} (single : '\n' ∉ token) (payload : List Char) :
    splitAtDelimiter (token ++ '\n' :: payload) = (token, some payload) := by
  induction token with
  | nil => rfl
  | cons c token ih =>
    have other : c ≠ '\n' := (List.ne_of_not_mem_cons single).symm
    rw [List.cons_append, splitAtDelimiter, if_neg other, ih (List.not_mem_of_not_mem_cons single)]

/-- A text without a line feed has nothing behind the first one. -/
theorem splitAtDelimiter_of_notMem {token : List Char} (single : '\n' ∉ token) :
    splitAtDelimiter token = (token, none) := by
  induction token with
  | nil => rfl
  | cons c token ih =>
    have other : c ≠ '\n' := (List.ne_of_not_mem_cons single).symm
    rw [splitAtDelimiter, if_neg other, ih (List.not_mem_of_not_mem_cons single)]

/-- A payload that does not end with a line end is kept as it is. -/
theorem keepPayload_append (front : List Char) {last : Char} (ends : isLineEnd last = false) :
    keepPayload (front ++ [last]) = some (String.ofList (front ++ [last])) := by
  have kept : dropLineEnds (front ++ [last]) = front ++ [last] := by
    simp [dropLineEnds, ends]
  unfold keepPayload
  rw [kept]
  cases front <;> rfl

/-- The token of a call is a line of its own, which does not end with a carriage return. -/
theorem token_line (call : Call) :
    '\n' ∉ call.token.toList ∧ dropReturn call.token.toList = call.token.toList ∧
      call.token.toList ≠ [] := by
  cases call <;> decide +kernel

/-- The bytes of a frame are those of its first line and of its payload. -/
theorem encodeFrame_some (call : Call) (payload : Bytes) :
    encodeFrame call (some payload) = Utf8.encode (call.token.toList ++ ['\n']) ++ payload := by
  have line : Utf8.encode (call.token.toList ++ ['\n']) =
      Utf8.encode call.token.toList ++ [delimiter] := Utf8.encode_append _ _
  rw [line, List.append_assoc]
  rfl

/-- A frame whose payload is text is decoded as its call and what is kept of the text. -/
theorem decode_encodeFrame_some (call : Call) (text : List Char) :
    decode (encodeFrame call (some (Utf8.encode text))) = .ok ⟨call.token, keepPayload text⟩ := by
  obtain ⟨single, whole, some_token⟩ := token_line call
  have bytes : encodeFrame call (some (Utf8.encode text)) =
      Utf8.encode (call.token.toList ++ '\n' :: text) := by
    have joined : call.token.toList ++ '\n' :: text = (call.token.toList ++ ['\n']) ++ text := by
      rw [List.append_assoc]
      rfl
    rw [encodeFrame_some, joined]
    exact (Utf8.encode_append _ _).symm
  unfold decode
  rw [bytes, Utf8.decode_encode]
  simp only [splitAtDelimiter_append single, whole, Option.bind_some, String.ofList_toList]

/-- A frame without a payload is decoded as its call alone. -/
theorem decode_encodeFrame_none (call : Call) :
    decode (encodeFrame call none) = .ok ⟨call.token, none⟩ := by
  obtain ⟨single, whole, some_token⟩ := token_line call
  have bytes : encodeFrame call none = Utf8.encode call.token.toList := rfl
  unfold decode
  rw [bytes, Utf8.decode_encode]
  simp only [splitAtDelimiter_of_notMem single, whole, Option.bind_none, String.ofList_toList]

/-- A frame whose payload does not end with a line end is decoded as it was encoded. -/
theorem decode_encode (call : Call) (front : List Char) {last : Char}
    (ends : isLineEnd last = false) :
    decode (Frame.encode ⟨call, some (String.ofList (front ++ [last]))⟩) =
      .ok ⟨call.token, some (String.ofList (front ++ [last]))⟩ := by
  have bytes : Frame.encode ⟨call, some (String.ofList (front ++ [last]))⟩ =
      encodeFrame call (some (Utf8.encode (front ++ [last]))) := by
    simp only [Frame.encode, Option.map_some, Bytes.ofString, String.toList_ofList]
  rw [bytes, decode_encodeFrame_some, keepPayload_append front ends]

end ThresholdDaemon.RawFrame
