import ThresholdDaemon.Proofs.Frame.RoundTrip

/-!
# The grammar of frames

Bytes that are decoded with a registered call are its token, at most one carriage return, and then
either nothing or a line feed with a payload behind it. The payload ends where only line ends
follow, and one that has nothing in front of them is none. All other bytes that are text have a
token outside the registry, unless their first line is empty.
-/
namespace ThresholdDaemon.RawFrame

/-- Nothing, or one carriage return. -/
def IsOptionalReturn (bytes : Bytes) : Prop := bytes = [] ∨ bytes = [0x0D]

/-- Only carriage returns and line feeds. -/
def AreLineEnds (bytes : Bytes) : Prop := ∀ byte ∈ bytes, byte = 0x0D ∨ byte = 0x0A

/-- Bytes whose first line is empty. -/
inductive HasEmptyLine : Bytes → Prop
  /-- There are none. -/
  | nothing : HasEmptyLine []
  /-- There is a carriage return alone. -/
  | lone : HasEmptyLine [0x0D]
  /-- They start with a line feed. -/
  | feed (rest : Bytes) : HasEmptyLine (0x0A :: rest)
  /-- They start with a carriage return and a line feed. -/
  | returned (rest : Bytes) : HasEmptyLine (0x0D :: 0x0A :: rest)

/-- The bytes that spell a call with a payload. -/
inductive Spells (call : Call) : Option String → Bytes → Prop
  /-- The token alone. -/
  | bare {back : Bytes} (optional : IsOptionalReturn back) :
    Spells call none (Bytes.ofString call.token ++ back)
  /-- A line feed and line ends behind the token. -/
  | empty {back ends : Bytes} (optional : IsOptionalReturn back) (only : AreLineEnds ends) :
    Spells call none (Bytes.ofString call.token ++ back ++ 0x0A :: ends)
  /-- A line feed and a payload behind the token, which ends with something else than a line end,
  and line ends. -/
  | full {back ends : Bytes} {front : List Char} {last : Char} (optional : IsOptionalReturn back)
      (other : last ≠ '\r' ∧ last ≠ '\n') (only : AreLineEnds ends) :
    Spells call (some (String.ofList (front ++ [last])))
      (Bytes.ofString call.token ++ back ++ 0x0A :: (Utf8.encode (front ++ [last]) ++ ends))

/-- A text is what stands in front of its first line feed, and possibly that and what stands behind
it. -/
theorem splitAtDelimiter_cases (text : List Char) :
    ∃ before, '\n' ∉ before ∧
      ((text = before ∧ splitAtDelimiter text = (before, none)) ∨
        ∃ after, text = before ++ '\n' :: after ∧ splitAtDelimiter text = (before, some after)) := by
  by_cases single : '\n' ∈ text
  · obtain ⟨before, after, rfl, first⟩ := List.eq_append_cons_of_mem single
    exact ⟨before, first, .inr ⟨after, rfl, splitAtDelimiter_append first after⟩⟩
  · exact ⟨text, single, .inl ⟨rfl, splitAtDelimiter_of_notMem single⟩⟩

/-- At most one carriage return is taken off the end of a token. -/
theorem exists_eq_dropReturn_append (before : List Char) :
    ∃ back, before = dropReturn before ++ back ∧ (back = [] ∨ back = ['\r']) := by
  fun_induction dropReturn before with
  | case1 => exact ⟨[], rfl, .inl rfl⟩
  | case2 => exact ⟨['\r'], rfl, .inr rfl⟩
  | case3 c rest other ih =>
    obtain ⟨back, whole, optional⟩ := ih
    exact ⟨back, congrArg (c :: ·) whole, optional⟩

/-- One carriage return is taken off the end of a token. -/
theorem dropReturn_append_return (token : List Char) : dropReturn (token ++ ['\r']) = token := by
  induction token with
  | nil => rfl
  | cons c token ih =>
    -- The text behind the first character is not empty, so that character is kept.
    have more : token ++ ['\r'] ≠ [] := List.append_ne_nil_of_right_ne_nil _ (by decide)
    rw [List.cons_append, dropReturn, ih]
    exact fun _ nothing => more nothing

/-- Text with a known first line is decoded as that line and what is kept of the rest. -/
theorem decode_encode_of_split {text before : List Char} {after : Option (List Char)}
    (split : splitAtDelimiter text = (before, after)) :
    decode (Utf8.encode text) =
      if dropReturn before = [] then .error .emptyCall
      else .ok ⟨String.ofList (dropReturn before), after.bind keepPayload⟩ := by
  unfold decode
  rw [Utf8.decode_encode]
  simp only [split]
  cases dropReturn before with
  | nil => rfl
  | cons c rest => rfl

/-- The bytes of at most one carriage return. -/
theorem isOptionalReturn_iff {back : Bytes} :
    IsOptionalReturn back ↔ ∃ text, back = Utf8.encode text ∧ (text = [] ∨ text = ['\r']) := by
  constructor
  · rintro (rfl | rfl)
    · exact ⟨[], rfl, .inl rfl⟩
    · exact ⟨['\r'], rfl, .inr rfl⟩
  · rintro ⟨text, rfl, rfl | rfl⟩
    · exact .inl rfl
    · exact .inr rfl

/-- The bytes of line ends. -/
theorem areLineEnds_iff {ends : Bytes} :
    AreLineEnds ends ↔ ∃ text, ends = Utf8.encode text ∧ ∀ c ∈ text, c = '\r' ∨ c = '\n' := by
  constructor
  · intro only
    induction ends with
    | nil => exact ⟨[], rfl, List.forall_mem_nil _⟩
    | cons byte ends ih =>
      obtain ⟨first, others⟩ := List.forall_mem_cons.mp only
      obtain ⟨text, rfl, behind⟩ := ih others
      obtain rfl | rfl := first
      · exact ⟨'\r' :: text, rfl, List.forall_mem_cons.mpr ⟨.inl rfl, behind⟩⟩
      · exact ⟨'\n' :: text, rfl, List.forall_mem_cons.mpr ⟨.inr rfl, behind⟩⟩
  · rintro ⟨text, rfl, only⟩ byte member
    obtain ⟨c, found, spelled⟩ := List.mem_flatMap.mp member
    obtain rfl | rfl := only c found
    · exact .inl (List.mem_singleton.mp spelled)
    · exact .inr (List.mem_singleton.mp spelled)

/-- The bytes of a line, a line feed and what stands behind it. -/
theorem encode_lines (line after : List Char) :
    Utf8.encode (line ++ '\n' :: after) = Utf8.encode line ++ 0x0A :: Utf8.encode after := by
  rw [Utf8.encode_append]
  rfl

/-- Bytes that are text are decoded by their first line. -/
theorem decode_of_isText {bytes : Bytes} (isText : ∃ text, bytes = Utf8.encode text) :
    ∃ before, '\n' ∉ before ∧
      ((bytes = Utf8.encode before ∧
          decode bytes = if dropReturn before = [] then .error .emptyCall
            else .ok ⟨String.ofList (dropReturn before), none⟩) ∨
        ∃ after, bytes = Utf8.encode before ++ 0x0A :: Utf8.encode after ∧
          decode bytes = if dropReturn before = [] then .error .emptyCall
            else .ok ⟨String.ofList (dropReturn before), keepPayload after⟩) := by
  obtain ⟨text, rfl⟩ := isText
  obtain ⟨before, single, ⟨rfl, split⟩ | ⟨after, rfl, split⟩⟩ := splitAtDelimiter_cases text
  · exact ⟨text, single, .inl ⟨rfl, decode_encode_of_split split⟩⟩
  · exact ⟨before, single, .inr ⟨after, encode_lines before after, decode_encode_of_split split⟩⟩

/-- Bytes that are no text are no frame, and all others are not refused for that. -/
theorem decode_eq_notUtf8_iff {bytes : Bytes} :
    (∃ fault, decode bytes = .error (.notUtf8 fault)) ↔ ¬ ∃ text, bytes = Utf8.encode text := by
  constructor
  · rintro ⟨fault, refused⟩ isText
    obtain ⟨before, -, ⟨-, decoded⟩ | ⟨after, -, decoded⟩⟩ := decode_of_isText isText
    · rw [decoded] at refused
      split at refused <;> exact nomatch refused
    · rw [decoded] at refused
      split at refused <;> exact nomatch refused
  · intro no_text
    unfold decode
    cases decoded : Utf8.decode bytes with
    | error fault => exact ⟨fault, rfl⟩
    | ok text => exact absurd ⟨text, Utf8.decode_eq_ok_iff.mp decoded⟩ no_text

/-- Bytes that are decoded, or refused for their first line, are text. -/
theorem isText_of_decode {bytes : Bytes}
    (text : ∀ fault, decode bytes ≠ .error (.notUtf8 fault)) : ∃ text, bytes = Utf8.encode text := by
  by_contra no_text
  obtain ⟨fault, refused⟩ := decode_eq_notUtf8_iff.mpr no_text
  exact text fault refused

/-- Text whose first line is empty is refused, and for that nothing else is. -/
theorem decode_eq_emptyCall_iff {bytes : Bytes} :
    decode bytes = .error .emptyCall ↔
      (∃ text, bytes = Utf8.encode text) ∧ HasEmptyLine bytes := by
  constructor
  · intro refused
    have isText := isText_of_decode fun fault other => nomatch refused.symm.trans other
    refine ⟨isText, ?_⟩
    -- What is left of the first line is empty, so the line is at most one carriage return.
    have line {before : List Char} {frame : RawFrame} (decoded : decode bytes =
        if dropReturn before = [] then .error .emptyCall else .ok frame) :
        before = [] ∨ before = ['\r'] := by
      by_cases nothing : dropReturn before = []
      · obtain ⟨back, whole, optional⟩ := exists_eq_dropReturn_append before
        rw [nothing, List.nil_append] at whole
        rwa [whole]
      · rw [if_neg nothing, refused] at decoded
        exact nomatch decoded
    obtain ⟨before, -, ⟨rfl, decoded⟩ | ⟨after, rfl, decoded⟩⟩ := decode_of_isText isText
    · obtain rfl | rfl := line decoded
      · exact .nothing
      · exact .lone
    · obtain rfl | rfl := line decoded
      · exact .feed _
      · exact .returned _
  · rintro ⟨⟨text, spelled⟩, empty⟩
    have return_small : (0x0D : UInt8).toNat < 0x80 := by decide
    have feed_small : (0x0A : UInt8).toNat < 0x80 := by decide
    cases empty with
    | nothing => rfl
    | lone => rfl
    | feed rest =>
      obtain ⟨more, rfl, rfl⟩ := Utf8.exists_of_encode_eq_cons feed_small spelled.symm
      have split : splitAtDelimiter ('\n' :: more) = ([], some more) := rfl
      exact decode_encode_of_split split
    | returned rest =>
      obtain ⟨more, rfl, bytes⟩ := Utf8.exists_of_encode_eq_cons return_small spelled.symm
      obtain ⟨last, rfl, rfl⟩ := Utf8.exists_of_encode_eq_cons feed_small bytes
      have split : splitAtDelimiter ('\r' :: '\n' :: last) = (['\r'], some last) := rfl
      exact decode_encode_of_split split

/-- The token of a call and at most one carriage return are a line, from which the token is left. -/
theorem token_back (call : Call) {back : List Char} (optional : back = [] ∨ back = ['\r']) :
    '\n' ∉ call.token.toList ++ back ∧
      dropReturn (call.token.toList ++ back) = call.token.toList := by
  obtain ⟨single, whole, -⟩ := token_line call
  obtain rfl | rfl := optional
  · rw [List.append_nil]
    exact ⟨single, whole⟩
  · refine ⟨?_, dropReturn_append_return _⟩
    rw [List.mem_append, not_or]
    exact ⟨single, by decide⟩

/-- A line with the token of a call is decoded as the call. -/
theorem decode_token_line (call : Call) {back : Bytes} (optional : IsOptionalReturn back) :
    decode (Bytes.ofString call.token ++ back) = .ok ⟨call.token, none⟩ := by
  obtain ⟨back, rfl, plain⟩ := isOptionalReturn_iff.mp optional
  obtain ⟨single, left⟩ := token_back call plain
  have decoded := decode_encode_of_split (splitAtDelimiter_of_notMem single)
  rw [left, if_neg (token_line call).2.2, String.ofList_toList, Utf8.encode_append] at decoded
  exact decoded

/-- A line with the token of a call and what stands behind it are decoded as the call and what is
kept of the rest. -/
theorem decode_token_lines (call : Call) {back : Bytes} (optional : IsOptionalReturn back)
    (after : List Char) :
    decode (Bytes.ofString call.token ++ back ++ 0x0A :: Utf8.encode after) =
      .ok ⟨call.token, keepPayload after⟩ := by
  obtain ⟨back, rfl, plain⟩ := isOptionalReturn_iff.mp optional
  obtain ⟨single, left⟩ := token_back call plain
  have decoded := decode_encode_of_split (splitAtDelimiter_append single after)
  rw [left, if_neg (token_line call).2.2, String.ofList_toList, encode_lines,
    Utf8.encode_append] at decoded
  exact decoded

/-- The bytes that spell a call are decoded as its token and the payload. -/
theorem decode_of_spells {call : Call} {payload : Option String} {bytes : Bytes}
    (spells : Spells call payload bytes) : decode bytes = .ok ⟨call.token, payload⟩ := by
  cases spells with
  | bare optional => exact decode_token_line call optional
  | empty optional only =>
    obtain ⟨ends, rfl, plain⟩ := areLineEnds_iff.mp only
    have trimmed : IsTrimmed ends [] := ⟨⟨ends, rfl, plain⟩, fun last final => nomatch final⟩
    rw [decode_token_lines call optional, keepPayload_eq trimmed, if_pos rfl]
  | @full back ends front last optional other only =>
    obtain ⟨ends, rfl, plain⟩ := areLineEnds_iff.mp only
    have trimmed : IsTrimmed (front ++ [last] ++ ends) (front ++ [last]) := by
      refine ⟨⟨ends, rfl, plain⟩, fun final member => ?_⟩
      rw [List.getLast?_concat, Option.mem_some_iff] at member
      exact member ▸ other
    rw [← Utf8.encode_append, decode_token_lines call optional, keepPayload_eq trimmed,
      if_neg (List.append_ne_nil_of_right_ne_nil _ (List.cons_ne_nil _ _))]

/-- What stands behind a line feed is a payload and line ends, or line ends alone. -/
theorem spells_of_keepPayload {call : Call} {back : Bytes} (optional : IsOptionalReturn back)
    (after : List Char) :
    Spells call (keepPayload after)
      (Bytes.ofString call.token ++ back ++ 0x0A :: Utf8.encode after) := by
  obtain ⟨kept, trimmed⟩ : ∃ kept, IsTrimmed after kept := ⟨_, isTrimmed_dropLineEnds after⟩
  obtain ⟨ends, rfl, plain⟩ := trimmed.gone
  have only : AreLineEnds (Utf8.encode ends) := areLineEnds_iff.mpr ⟨ends, rfl, plain⟩
  rw [keepPayload_eq trimmed, Utf8.encode_append]
  obtain rfl | ⟨front, last, rfl⟩ := List.eq_nil_or_concat' kept
  · exact .empty optional only
  · have other : last ≠ '\r' ∧ last ≠ '\n' := trimmed.left last List.getLast?_concat
    rw [if_neg (List.append_ne_nil_of_right_ne_nil _ (List.cons_ne_nil _ _))]
    exact .full optional other only

/-- Bytes that are decoded with a registered call spell it. -/
theorem spells_of_decode {bytes : Bytes} {frame : RawFrame} (decoded : decode bytes = .ok frame)
    (registered : frame.call ≠ .unknown) : Spells frame.call frame.payload bytes := by
  have named : frame.call.token = frame.token := Call.token_ofToken registered
  have isText := isText_of_decode fun fault refused => nomatch decoded.symm.trans refused
  -- The token is the first line but for at most one carriage return.
  have line {before : List Char} {payload : Option String} (found : decode bytes =
      if dropReturn before = [] then .error .emptyCall
      else .ok ⟨String.ofList (dropReturn before), payload⟩) :
      frame.payload = payload ∧ ∃ back, IsOptionalReturn back ∧
        Utf8.encode before = Bytes.ofString frame.call.token ++ back := by
    rw [decoded] at found
    by_cases nothing : dropReturn before = []
    · rw [if_pos nothing] at found
      exact nomatch found
    rw [if_neg nothing] at found
    obtain rfl := Except.ok.inj found
    obtain ⟨back, whole, plain⟩ := exists_eq_dropReturn_append before
    refine ⟨rfl, Utf8.encode back, isOptionalReturn_iff.mpr ⟨back, rfl, plain⟩, ?_⟩
    rw [named, Bytes.ofString, String.toList_ofList, ← Utf8.encode_append, ← whole]
  obtain ⟨before, -, ⟨rfl, found⟩ | ⟨after, rfl, found⟩⟩ := decode_of_isText isText
  · obtain ⟨payload, back, optional, spelled⟩ := line found
    rw [payload, spelled]
    exact .bare optional
  · obtain ⟨payload, back, optional, spelled⟩ := line found
    rw [payload, spelled]
    exact spells_of_keepPayload optional after

/-- Bytes are decoded with a registered call and a payload exactly if they spell them. -/
theorem decode_eq_ok_iff_spells {bytes : Bytes} {call : Call} {payload : Option String}
    (registered : call ≠ .unknown) :
    (∃ frame, decode bytes = .ok frame ∧ frame.call = call ∧ frame.payload = payload) ↔
      Spells call payload bytes := by
  constructor
  · rintro ⟨frame, decoded, rfl, rfl⟩
    exact spells_of_decode decoded registered
  · intro spells
    exact ⟨_, decode_of_spells spells, Call.ofToken_token call, rfl⟩

/-- Bytes that are no text are refused for that, text with an empty first line is refused for its
line, and all other text is decoded. It is decoded with a registered call and a payload, or none,
exactly if it spells them, and with the sentinel exactly if it spells no registered call. -/
theorem decode_grammar (bytes : Bytes) :
    ((∃ fault, decode bytes = .error (.notUtf8 fault)) ↔ ¬ ∃ text, bytes = Utf8.encode text) ∧
    (decode bytes = .error .emptyCall ↔
      (∃ text, bytes = Utf8.encode text) ∧ HasEmptyLine bytes) ∧
    ((∃ frame, decode bytes = .ok frame) ↔
      (∃ text, bytes = Utf8.encode text) ∧ ¬ HasEmptyLine bytes) ∧
    (∀ call payload, call ≠ .unknown →
      ((∃ frame, decode bytes = .ok frame ∧ frame.call = call ∧ frame.payload = payload) ↔
        Spells call payload bytes)) ∧
    (∀ frame, decode bytes = .ok frame →
      (frame.call = .unknown ↔
        ∀ call payload, call ≠ .unknown → ¬ Spells call payload bytes)) := by
  refine ⟨decode_eq_notUtf8_iff, decode_eq_emptyCall_iff, ?_,
    fun call payload registered => decode_eq_ok_iff_spells registered, ?_⟩
  · constructor
    · rintro ⟨frame, decoded⟩
      have isText := isText_of_decode fun fault refused => nomatch decoded.symm.trans refused
      refine ⟨isText, fun empty => ?_⟩
      have refused := decode_eq_emptyCall_iff.mpr ⟨isText, empty⟩
      exact nomatch decoded.symm.trans refused
    · rintro ⟨isText, line⟩
      cases decoded : decode bytes with
      | ok frame => exact ⟨frame, rfl⟩
      | error error =>
        cases error with
        | emptyCall => exact absurd (decode_eq_emptyCall_iff.mp decoded).2 line
        | notUtf8 fault => exact absurd isText (decode_eq_notUtf8_iff.mp ⟨fault, decoded⟩)
  · intro frame decoded
    constructor
    · intro unknown call payload registered spells
      obtain rfl := Except.ok.inj (decoded.symm.trans (decode_of_spells spells))
      exact registered ((Call.ofToken_token call).symm.trans unknown)
    · intro none
      by_contra registered
      exact none _ _ registered (spells_of_decode decoded registered)

/-- Two carriage returns are one too many. -/
example : (decode (Bytes.ofString "__CALL_THRESH_SIG_SIGN\r\r\n\x7b\x7d")).map RawFrame.call =
    .ok .unknown := by
  decide +kernel

end ThresholdDaemon.RawFrame
