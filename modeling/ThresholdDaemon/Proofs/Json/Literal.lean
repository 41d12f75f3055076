import ThresholdDaemon.Proofs.Json.Yields

/-!
# Texts are read as they were printed

Every character between the quotes stands either for itself or behind a backslash, and what stands
behind the backslash is read as the character that was printed.
-/
namespace ThresholdDaemon.Json.Literal

/-- The hexadecimal digit of a value is read as the value. -/
theorem hexDigit?_hexChar {n : Nat} (small : n < 16) : hexDigit? (hexChar n) = some n := by
  revert n
  decide

/-- Four hexadecimal digits are read as the unit that they write. -/
theorem yields_unit {a b c d : Nat} (as : a < 16) (bs : b < 16) (cs : c < 16) (ds : d < 16)
    (rest : List Char) :
    Yields unit (hexChar a :: hexChar b :: hexChar c :: hexChar d :: rest)
      (((a * 16 + b) * 16 + c) * 16 + d) rest := by
  have ascii : ∀ {n : Nat}, n < 16 → (String.utf8EncodeChar (hexChar n)).length = 1 := by
    intro n small
    revert n
    decide
  intro position
  let digits := hexChar a :: hexChar b :: hexChar c :: hexChar d :: rest
  have four : (Utf8.encode (digits.take 4)).length = 4 := by
    simp [digits, Utf8.encode, ascii as, ascii bs, ascii cs, ascii ds]
  have behind : ∃ behind, positionAfterFour? ⟨digits, position⟩ = some behind := by
    simp [positionAfterFour?, four]
  obtain ⟨behind, counted⟩ := behind
  refine ⟨behind, ?_⟩
  show unit ⟨digits, position⟩ = _
  unfold unit
  rw [counted]
  simp only [digits, hexDigit?_hexChar as, hexDigit?_hexChar bs, hexDigit?_hexChar cs,
    hexDigit?_hexChar ds]

/-- The four digits that a control character is printed with are read as the character. -/
theorem yields_codePoint {c : Char} (control : isControl c = true) (rest : List Char) :
    Yields codePoint ('0' :: '0' :: hexChar (c.toNat / 16) :: hexChar (c.toNat % 16) :: rest) c
      rest := by
  have small : c.toNat < 0x20 := of_decide_eq_true control
  have value : ((0 * 16 + 0) * 16 + c.toNat / 16) * 16 + c.toNat % 16 = c.toNat := by omega
  have written := yields_unit (a := 0) (b := 0) (by decide) (by decide)
    (show c.toNat / 16 < 16 by omega) (show c.toNat % 16 < 16 by omega) rest
  rw [value] at written
  refine written.bind ?_
  have not_low : isLowSurrogate c.toNat = false := by
    simp [isLowSurrogate]
    omega
  have not_high : isHighSurrogate c.toNat = false := by
    simp [isHighSurrogate]
    omega
  simp only [not_low, not_high, Bool.false_eq_true, if_false, Char.ofNat_toNat]
  exact .pure c rest

/-- A character behind a backslash is read as what it stands for. -/
theorem yields_simpleEscape {c meant : Char} (simple : simpleEscape? c = some meant)
    (rest : List Char) : Yields escape (c :: rest) meant rest := by
  refine (Yields.next? (c :: rest)).bind ?_
  simp only [List.head?_cons, simple]
  exact (Yields.advance c rest).bind (.pure meant rest)

/-- The escape of a control character is read as the character. -/
theorem yields_controlEscape {c : Char} (control : isControl c = true) (rest : List Char) :
    Yields escape ('u' :: '0' :: '0' :: hexChar (c.toNat / 16) :: hexChar (c.toNat % 16) :: rest) c
      rest :=
  (Yields.next? _).bind ((Yields.advance 'u' _).bind (yields_codePoint control rest))

/-- A character is printed as itself, or as a backslash and something that is read as the
character. -/
theorem escapeChar_cases (c : Char) :
    (escapeChar c = [c] ∧ c ≠ '"' ∧ c ≠ '\\' ∧ isControl c = false) ∨
      ∃ behind, escapeChar c = '\\' :: behind ∧ ∀ rest, Yields escape (behind ++ rest) c rest := by
  unfold escapeChar
  by_cases simple : c = '"' ∨ c = '\\' ∨ c = '\x08' ∨ c = '\x0c' ∨ c = '\n' ∨ c = '\r' ∨ c = '\t'
  · right
    rcases simple with rfl | rfl | rfl | rfl | rfl | rfl | rfl <;>
      exact ⟨_, rfl, fun rest => yields_simpleEscape rfl rest⟩
  · obtain ⟨quote, backslash, backspace, feed, line, carriage, tab⟩ := by
      simpa only [not_or] using simple
    rw [if_neg quote, if_neg backslash, if_neg backspace, if_neg feed, if_neg line, if_neg carriage,
      if_neg tab]
    by_cases control : isControl c = true
    · rw [if_pos control]
      exact .inr ⟨_, rfl, fun rest => yields_controlEscape control rest⟩
    · rw [if_neg control]
      exact .inl ⟨rfl, quote, backslash, Bool.eq_false_iff.mpr control⟩

/-- The characters between the quotes are read as the text that was printed. -/
theorem yields_body (text : List Char) : ∀ (fuel : Nat) (found rest : List Char),
    text.length < fuel →
      Yields (body fuel found) (escaped text ++ '"' :: rest) (found.reverse ++ text) rest := by
  induction text with
  | nil =>
    intro fuel found rest enough
    obtain ⟨fuel, rfl⟩ := Nat.exists_eq_succ_of_ne_zero (Nat.ne_of_gt enough)
    rw [List.append_nil]
    exact (Yields.next? _).bind ((Yields.advance '"' rest).bind (.pure found.reverse rest))
  | cons c text ih =>
    intro fuel found rest enough
    obtain ⟨fuel, rfl⟩ := Nat.exists_eq_succ_of_ne_zero (Nat.ne_of_gt (Nat.zero_lt_of_lt enough))
    have others : Yields (body fuel (c :: found)) (escaped text ++ '"' :: rest)
        (found.reverse ++ c :: text) rest := by
      have more := ih fuel (c :: found) rest (Nat.lt_of_succ_lt_succ enough)
      rwa [List.reverse_cons, List.append_assoc] at more
    have first : escaped (c :: text) = escapeChar c ++ escaped text := List.flatMap_cons
    rw [first, List.append_assoc]
    rcases escapeChar_cases c with ⟨itself, quote, backslash, control⟩ | ⟨behind, escapes, read⟩
    · rw [itself]
      refine (Yields.next? _).bind ?_
      simp only [List.cons_append, List.head?_cons, if_neg quote, if_neg backslash, control,
        Bool.false_eq_true, if_false]
      exact (Yields.advance c _).bind others
    · rw [escapes]
      exact (Yields.next? _).bind ((Yields.advance '\\' _).bind ((read _).bind others))

/-- Between quotes no text has fewer characters than without them. -/
theorem length_le_escaped (text : List Char) : text.length ≤ (escaped text).length := by
  unfold escaped
  induction text with
  | nil => exact Nat.le_refl _
  | cons c text ih =>
    have some_char : 1 ≤ (escapeChar c).length := by
      rcases escapeChar_cases c with ⟨itself, -⟩ | ⟨behind, escapes, -⟩
      · rw [itself]
        exact Nat.le_refl _
      · rw [escapes]
        exact Nat.le_add_left 1 _
    rw [List.flatMap_cons, List.length_append, List.length_cons]
    omega

/-- A text whose opening quote is taken is read as it was printed. -/
theorem yields_read (text : String) (rest : List Char) :
    Yields read (escaped text.toList ++ '"' :: rest) text rest := by
  have enough : text.toList.length < (escaped text.toList ++ '"' :: rest).length + 1 := by
    have escapes := length_le_escaped text.toList
    rw [List.length_append]
    omega
  have found := yields_body text.toList _ [] rest enough
  refine (Yields.remaining _).bind (found.bind ?_)
  have whole : String.ofList ([].reverse ++ text.toList) = text := String.ofList_toList
  exact fun position => ⟨position, by rw [whole]; rfl⟩

/-- A printed text is its quotes and what stands between them. -/
theorem print_append (text : String) (rest : List Char) :
    print text ++ rest = '"' :: (escaped text.toList ++ '"' :: rest) := by
  simp [print]

end ThresholdDaemon.Json.Literal
