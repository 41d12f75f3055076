import ThresholdDaemon.Json.Read

/-!
# What readers yield

A reader yields a value on a text if it takes a front of the text off and gives the value, wherever
the text starts. What readers yield is followed step by step: a reader and another one behind it
yield what the second yields on what the first has left.

A value is read up to the place where something stands that may follow one: nothing, a comma or the
end of an array or an object. Where a value starts there is neither a blank nor any of these.
-/
namespace ThresholdDaemon.Json

variable {α β : Type}

/-- A reader gives a value and leaves the rest of a text, wherever the text starts. -/
def Yields (reader : Reader α) (text : List Char) (value : α) (rest : List Char) : Prop :=
  ∀ position, ∃ behind, reader ⟨text, position⟩ = .ok (value, ⟨rest, behind⟩)

namespace Yields

variable {text middle rest : List Char} {value : α} {result : β}

/-- Nothing is taken off by a value that is there already. -/
theorem pure (value : α) (text : List Char) : Yields (Pure.pure value) text value text :=
  fun position => ⟨position, rfl⟩

/-- Behind a reader another one goes on with what is left. -/
theorem bind {reader : Reader α} {next : α → Reader β} (first : Yields reader text value middle)
    (second : Yields (next value) middle result rest) :
    Yields (reader >>= next) text result rest := by
  intro position
  obtain ⟨between, read⟩ := first position
  obtain ⟨behind, gone_on⟩ := second between
  refine ⟨behind, ?_⟩
  show (reader ⟨text, position⟩ >>= fun (value, cursor) => next value cursor) = _
  rw [read]
  exact gone_on

/-- A value may be put to use. -/
theorem map {reader : Reader α} (use : α → β) (first : Yields reader text value rest) :
    Yields (use <$> reader) text (use value) rest := by
  rw [map_eq_pure_bind]
  exact first.bind (pure (use value) rest)

/-- One character is taken off. -/
theorem advance (c : Char) (rest : List Char) : Yields Reader.advance (c :: rest) () rest :=
  fun position => ⟨position.after c, rfl⟩

/-- The next character is looked at. -/
theorem next? (text : List Char) : Yields Reader.next? text text.head? text :=
  fun position => ⟨position, rfl⟩

/-- A character that is no blank is looked at where it stands. -/
theorem nextAfterBlanks? {c : Char} (visible : Cursor.isBlank c = false) (rest : List Char) :
    Yields Reader.nextAfterBlanks? (c :: rest) (some c) (c :: rest) := by
  intro position
  refine ⟨position, ?_⟩
  have stays : Cursor.skipBlanks ⟨c :: rest, position⟩ = ⟨c :: rest, position⟩ := by
    unfold Cursor.skipBlanks Cursor.skipBlanksFrom
    rw [visible]
    rfl
  show Except.ok ((Cursor.skipBlanks ⟨c :: rest, position⟩).rest.head?,
    Cursor.skipBlanks ⟨c :: rest, position⟩) = _
  rw [stays]
  rfl

/-- The characters left are counted. -/
theorem remaining (text : List Char) : Yields Reader.remaining text text.length text :=
  fun position => ⟨position, rfl⟩

/-- A word is taken off. -/
theorem word (expected rest : List Char) : Yields (Reader.word expected) (expected ++ rest) () rest := by
  induction expected with
  | nil => exact pure () rest
  | cons c more ih =>
    refine (next? (c :: more ++ rest)).bind ?_
    show Yields (if c = c then Reader.advance >>= fun _ => Reader.word more else _) _ _ _
    rw [if_pos rfl]
    exact (advance c (more ++ rest)).bind ih

/-- A reader that yields a value on a whole text is a read of the text. -/
theorem run {reader : Reader α} {text : List Char} (whole : Yields reader text value []) :
    reader.run (String.ofList text) = .ok value := by
  have finished : Yields (reader >>= Reader.finish) text value [] :=
    whole.bind fun position => ⟨position, rfl⟩
  obtain ⟨behind, read⟩ := finished .start
  show (do let value ← StateT.run (reader >>= Reader.finish)
            (Cursor.start (String.ofList text).toList); Pure.pure value.1) = _
  rw [String.toList_ofList, StateT.run, Cursor.start, read]
  rfl

end Yields

/-- What may stand behind a value. -/
def Closed (rest : List Char) : Prop :=
  rest = [] ∨ ∃ c more, rest = c :: more ∧ (c = ',' ∨ c = ']' ∨ c = '\x7d')

namespace Closed

/-- Nothing stands behind a whole text. -/
theorem nil : Closed [] := .inl rfl

/-- A comma may stand behind a value. -/
theorem comma (rest : List Char) : Closed (',' :: rest) := .inr ⟨_, _, rfl, .inl rfl⟩

/-- An array may end behind a value. -/
theorem bracket (rest : List Char) : Closed (']' :: rest) := .inr ⟨_, _, rfl, .inr (.inl rfl)⟩

/-- An object may end behind a value. -/
theorem brace (rest : List Char) : Closed ('\x7d' :: rest) := .inr ⟨_, _, rfl, .inr (.inr rfl)⟩

end Closed

/-- A character that starts a value. -/
def opensValue (c : Char) : Bool :=
  c = 'n' || c = 't' || c = 'f' || c = '"' || c = '[' || c = '\x7b' || c = '-' || c.isDigit

/-- A value does not start with a blank, a comma, or the end of an array or an object. -/
theorem opensValue_apart {c : Char} (opens : opensValue c = true) :
    Cursor.isBlank c = false ∧ c ≠ ',' ∧ c ≠ ']' := by
  have apart : ∀ other : Char, opensValue other = false → c ≠ other := by
    rintro other closes rfl
    simp [opens] at closes
  refine ⟨?_, apart ',' (by decide), apart ']' (by decide)⟩
  simp [Cursor.isBlank, apart ' ' (by decide), apart '\n' (by decide), apart '\t' (by decide),
    apart '\r' (by decide)]

/-- A text starts a value, and a reader yields a certain one on it wherever it is closed. -/
structure Reads (reader : Reader α) (text : List Char) (value : α) : Prop where
  /-- The text starts like a value. -/
  opens : ∃ c more, text = c :: more ∧ opensValue c = true
  /-- The reader takes the text off. -/
  yields : ∀ rest, Closed rest → Yields reader (text ++ rest) value rest

namespace Reads

/-- A value may be put to use. -/
theorem map {reader : Reader α} {text : List Char} {value : α} (use : α → β)
    (reads : Reads reader text value) : Reads (use <$> reader) text (use value) :=
  ⟨reads.opens, fun rest closed => (reads.yields rest closed).map use⟩

/-- A text is read as a whole. -/
theorem run {reader : Reader α} {text : List Char} {value : α} (reads : Reads reader text value) :
    reader.run (String.ofList text) = .ok value := by
  have whole := reads.yields [] .nil
  rw [List.append_nil] at whole
  exact whole.run

end Reads

end ThresholdDaemon.Json
