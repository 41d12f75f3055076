import Mathlib.Data.List.DropRight
import ThresholdDaemon.Proofs.Frame.Decode

/-!
# Frames that come back

A frame is decoded as its call and as what is left of its payload once the line ends are taken off
its end; a payload that is no text is no frame. So exactly those frames come back as they were whose
payload is absent, or is a text that ends with anything else than a line end. What is decoded with a
registered call is such a frame again.
-/
namespace ThresholdDaemon

/-- A text that names a registered call is the token of that call. -/
theorem Call.token_ofToken {text : String} (registered : ofToken text ≠ unknown) :
    (ofToken text).token = text := by
  unfold ofToken at registered ⊢
  cases found : all.find? (·.token = text) with
  | none =>
    rw [found] at registered
    exact absurd rfl registered
  | some call =>
    have named := List.find?_some found
    exact of_decide_eq_true named

namespace RawFrame

/-- What is kept of a text once all line ends are taken off its end. -/
structure IsTrimmed (text kept : List Char) : Prop where
  /-- Nothing but line ends is gone. -/
  gone : ∃ ends, text = kept ++ ends ∧ ∀ c ∈ ends, c = '\r' ∨ c = '\n'
  /-- What is left does not end with one. -/
  left : ∀ last ∈ kept.getLast?, last ≠ '\r' ∧ last ≠ '\n'

/-- The characters that end a line are carriage returns and line feeds. -/
theorem isLineEnd_iff {c : Char} : isLineEnd c = true ↔ c = '\r' ∨ c = '\n' := by
  unfold isLineEnd
  rw [Bool.or_eq_true, decide_eq_true_eq, decide_eq_true_eq]

/-- All other characters do not. -/
theorem isLineEnd_eq_false_iff {c : Char} : isLineEnd c = false ↔ c ≠ '\r' ∧ c ≠ '\n' := by
  rw [Bool.eq_false_iff, ne_eq, isLineEnd_iff, not_or]

/-- The line ends at the end of a text are dropped, and nothing else. -/
theorem isTrimmed_dropLineEnds (text : List Char) : IsTrimmed text (dropLineEnds text) := by
  have dropped : dropLineEnds text = text.rdropWhile isLineEnd := rfl
  rw [dropped]
  constructor
  · refine ⟨text.rtakeWhile isLineEnd, List.rdropWhile_append_rtakeWhile.symm, ?_⟩
    intro c member
    exact isLineEnd_iff.mp (List.mem_rtakeWhile_imp member)
  · intro last final
    obtain ⟨some_left, rfl⟩ := List.mem_getLast?_eq_getLast final
    have other := List.rdropWhile_last_not isLineEnd text some_left
    rw [isLineEnd_iff, not_or] at other
    exact other

/-- There is one way to take all line ends off. -/
theorem IsTrimmed.eq_dropLineEnds {text kept : List Char} (trimmed : IsTrimmed text kept) :
    kept = dropLineEnds text := by
  obtain ⟨ends, rfl, only⟩ := trimmed.gone
  have all_ends : ends.reverse.dropWhile isLineEnd = [] := by
    rw [List.dropWhile_eq_nil_iff]
    intro c member
    exact isLineEnd_iff.mpr (only c (List.mem_reverse.mp member))
  have settled : kept.rdropWhile isLineEnd = kept := by
    rw [List.rdropWhile_eq_self_iff]
    intro some_left ending
    obtain ⟨no_return, no_feed⟩ := trimmed.left _ (List.getLast?_eq_some_getLast some_left)
    obtain at_return | at_feed := isLineEnd_iff.mp ending
    · exact no_return at_return
    · exact no_feed at_feed
  show kept = ((kept ++ ends).reverse.dropWhile isLineEnd).reverse
  rw [List.reverse_append, List.dropWhile_append, all_ends]
  exact settled.symm

/-- The payload that is kept is what is left, if anything is. -/
theorem keepPayload_eq {text kept : List Char} (trimmed : IsTrimmed text kept) :
    keepPayload text = if kept = [] then none else some (String.ofList kept) := by
  obtain rfl := trimmed.eq_dropLineEnds
  unfold keepPayload
  cases dropLineEnds text with
  | nil => rfl
  | cons c rest => rfl

/-- A payload that is kept ends with something else than a line end. -/
theorem exists_of_keepPayload_eq_some {text : List Char} {payload : String}
    (kept : keepPayload text = some payload) :
    ∃ front last, payload = String.ofList (front ++ [last]) ∧ isLineEnd last = false := by
  have trimmed := isTrimmed_dropLineEnds text
  rw [keepPayload_eq trimmed] at kept
  by_cases nothing : dropLineEnds text = []
  · rw [if_pos nothing] at kept
    exact nomatch kept
  rw [if_neg nothing] at kept
  obtain rfl := Option.some.inj kept
  refine ⟨(dropLineEnds text).dropLast, (dropLineEnds text).getLast nothing, ?_, ?_⟩
  · rw [List.dropLast_append_getLast]
  · have other := trimmed.left _ (List.getLast?_eq_some_getLast nothing)
    exact isLineEnd_eq_false_iff.mpr other

/-- A payload that is decoded is what is kept of a text. -/
theorem payload_of_decode {bytes : Bytes} {frame : RawFrame} {payload : String}
    (decoded : decode bytes = .ok frame) (present : frame.payload = some payload) :
    ∃ text, keepPayload text = some payload := by
  unfold decode at decoded
  split at decoded
  · exact nomatch decoded
  next text found =>
    generalize splitAtDelimiter text = parts at decoded
    obtain ⟨before, after⟩ := parts
    dsimp only at decoded
    split at decoded
    · exact nomatch decoded
    · obtain rfl := Except.ok.inj decoded
      obtain ⟨text, -, kept⟩ := Option.bind_eq_some_iff.mp present
      exact ⟨text, kept⟩

/-- A payload that is no text is no frame. -/
theorem decode_encodeFrame_error (call : Call) {payload : Bytes}
    (no_text : ¬ ∃ text, payload = Utf8.encode text) :
    ∃ fault, decode (encodeFrame call (some payload)) = .error (.notUtf8 fault) := by
  have line := Utf8.decodeFrom_encode_append (call.token.toList ++ ['\n']) payload 0
  cases behind : Utf8.decodeFrom (0 + (Utf8.encode (call.token.toList ++ ['\n'])).length)
      payload with
  | ok text => exact absurd ⟨text, Utf8.eq_encode_of_decodeFrom behind⟩ no_text
  | error fault =>
    rw [behind, ← encodeFrame_some] at line
    have fails : Utf8.decode (encodeFrame call (some payload)) = .error fault := line
    refine ⟨fault, ?_⟩
    unfold decode
    rw [fails]

/-- A payload comes back as it was exactly if it is a text that ends with something else than a line
end. -/
theorem comesBack_iff (call : Call) (payload : Bytes) :
    (∃ frame, decode (encodeFrame call (some payload)) = .ok frame ∧ frame.call = call ∧
      frame.payload.map Bytes.ofString = some payload) ↔
      ∃ front last, payload = Utf8.encode (front ++ [last]) ∧ last ≠ '\r' ∧ last ≠ '\n' := by
  constructor
  · rintro ⟨frame, decoded, -, same⟩
    obtain ⟨text, present, bytes⟩ := Option.map_eq_some_iff.mp same
    obtain ⟨whole, kept⟩ := payload_of_decode decoded present
    obtain ⟨front, last, rfl, ending⟩ := exists_of_keepPayload_eq_some kept
    refine ⟨front, last, ?_, isLineEnd_eq_false_iff.mp ending⟩
    rw [← bytes, Bytes.ofString, String.toList_ofList]
  · rintro ⟨front, last, rfl, ending⟩
    refine ⟨_, decode_encodeFrame_some call (front ++ [last]), Call.ofToken_token call, ?_⟩
    show (keepPayload (front ++ [last])).map Bytes.ofString = _
    rw [keepPayload_append front (isLineEnd_eq_false_iff.mpr ending), Option.map_some,
      Bytes.ofString, String.toList_ofList]

/-- What is decoded with a registered call is decoded again from the bytes of its call and its
payload. -/
theorem decode_encodeFrame_decoded {bytes : Bytes} {frame : RawFrame}
    (decoded : decode bytes = .ok frame) (registered : frame.call ≠ .unknown) :
    decode (encodeFrame frame.call (frame.payload.map Bytes.ofString)) = .ok frame := by
  have token : frame.call.token = frame.token := Call.token_ofToken registered
  have same (payload : Option String) (present : frame.payload = payload) :
      (⟨frame.call.token, payload⟩ : RawFrame) = frame := by
    rw [token, ← present]
  cases present : frame.payload with
  | none => exact (decode_encodeFrame_none frame.call).trans (congrArg _ (same none present))
  | some payload =>
    obtain ⟨text, kept⟩ := payload_of_decode decoded present
    obtain ⟨front, last, rfl, ending⟩ := exists_of_keepPayload_eq_some kept
    exact (decode_encode frame.call front ending).trans (congrArg _ (same _ present))

/-- A frame whose payload is no text is no frame once it is encoded. Every other frame is decoded as
its call and what is left of its payload without the line ends at its end, if anything is left. So
it comes back as it was exactly if it has no payload or one that is not empty and ends with
something else than a line end. What is decoded with a registered call always comes back. -/
theorem decode_encodeFrame (call : Call) :
    (∀ payload, (∃ fault, decode (encodeFrame call (some payload)) = .error (.notUtf8 fault)) ↔
      ¬ ∃ text, payload = Utf8.encode text) ∧
    decode (encodeFrame call none) = .ok ⟨call.token, none⟩ ∧
    (∀ text, ∃ kept, IsTrimmed text kept ∧
      decode (encodeFrame call (some (Utf8.encode text))) =
        .ok ⟨call.token, if kept = [] then none else some (String.ofList kept)⟩) ∧
    (∀ payload, RawFrame.call ⟨call.token, payload⟩ = call) ∧
    (∀ payload, (∃ frame, decode (encodeFrame call payload) = .ok frame ∧ frame.call = call ∧
        frame.payload.map Bytes.ofString = payload) ↔
      payload = none ∨ ∃ front last, payload = some (Utf8.encode (front ++ [last])) ∧
        last ≠ '\r' ∧ last ≠ '\n') ∧
    ∀ bytes frame, decode bytes = .ok frame → frame.call ≠ .unknown →
      decode (encodeFrame frame.call (frame.payload.map Bytes.ofString)) = .ok frame := by
  have trimmed (text : List Char) := keepPayload_eq (isTrimmed_dropLineEnds text)
  have named (payload : Option String) : RawFrame.call ⟨call.token, payload⟩ = call :=
    Call.ofToken_token call
  refine ⟨?_, decode_encodeFrame_none call, ?_, named, ?_, ?_⟩
  · intro payload
    constructor
    · rintro ⟨fault, failed⟩ ⟨text, rfl⟩
      rw [decode_encodeFrame_some] at failed
      exact nomatch failed
    · exact decode_encodeFrame_error call
  · intro text
    refine ⟨dropLineEnds text, isTrimmed_dropLineEnds text, ?_⟩
    rw [decode_encodeFrame_some, trimmed]
  · intro payload
    cases payload with
    | none =>
      exact iff_of_true ⟨_, decode_encodeFrame_none call, named none, rfl⟩ (.inl rfl)
    | some payload => simpa using comesBack_iff call payload
  · intro bytes frame decoded registered
    exact decode_encodeFrame_decoded decoded registered

/-- Line ends inside a payload come back, and those at its end do not. -/
example : decode (encodeFrame .signRequest (some (Utf8.encode "a\r\nb\n\r\n".toList))) =
    .ok ⟨Call.signRequest.token, some "a\r\nb"⟩ := by
  decide +kernel

end RawFrame

end ThresholdDaemon
