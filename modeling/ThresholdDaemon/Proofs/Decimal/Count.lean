import ThresholdDaemon.Decimal.Count

/-!
# Counts are read as they are written

The digits of a count are checked against the word one by one. Since more digits never make a
number smaller, this refuses exactly the numbers that do not fit, however many zeros are in front.
-/
namespace ThresholdDaemon

/-- A text writes a count: decimal digits, with a plus sign in front or none, whose value fits a
machine word and is not zero. -/
def WritesCount (text : List Char) (count : UInt64) : Prop :=
  ∃ sign digits, (sign = [] ∨ sign = ['+']) ∧ text = sign ++ digits ∧ digits ≠ [] ∧
    (∀ c ∈ digits, c.isDigit = true) ∧ Nat.ofDigitChars 10 digits 0 = count.toNat ∧
    1 ≤ count.toNat

/-- More digits never make a number smaller. -/
theorem le_ofDigitChars (digits : List Char) (soFar : Nat) :
    soFar ≤ Nat.ofDigitChars 10 digits soFar := by
  induction digits generalizing soFar with
  | nil => exact Nat.le_refl _
  | cons c rest ih =>
    have more := ih (10 * soFar + (c.toNat - '0'.toNat))
    rw [Nat.ofDigitChars_cons]
    omega

/-- Digits are read as their value if it fits a word, and nothing else is read. -/
theorem countDigits_eq_ok_iff (digits : List Char) {soFar n : Nat} (fits : soFar < wordCount) :
    countDigits soFar digits = .ok n ↔
      (∀ c ∈ digits, c.isDigit = true) ∧ Nat.ofDigitChars 10 digits soFar = n ∧ n < wordCount := by
  induction digits generalizing soFar with
  | nil =>
    rw [countDigits, Nat.ofDigitChars_nil, Except.ok.injEq]
    constructor
    · rintro rfl
      exact ⟨fun c member => absurd member List.not_mem_nil, rfl, fits⟩
    · exact fun read => read.2.1
  | cons c rest ih =>
    have shift : soFar * 10 + (c.toNat - '0'.toNat) = 10 * soFar + (c.toNat - '0'.toNat) := by
      omega
    rw [countDigits, Nat.ofDigitChars_cons, List.forall_mem_cons, shift]
    by_cases digit : c.isDigit = true
    · rw [if_pos digit]
      by_cases small : 10 * soFar + (c.toNat - '0'.toNat) < wordCount
      · rw [if_pos small, ih small]
        simp only [digit, true_and]
      · rw [if_neg small]
        have grows := le_ofDigitChars rest (10 * soFar + (c.toNat - '0'.toNat))
        refine iff_of_false (fun read => by cases read) ?_
        rintro ⟨-, value, bound⟩
        omega
    · rw [if_neg digit]
      exact iff_of_false (fun read => by cases read) fun read => digit read.1.1

/-- A text is read as a number if it is the number's digits behind a sign or none. -/
theorem countText_eq_ok_iff (text : List Char) {n : Nat} :
    countText text = .ok n ↔
      ∃ sign digits, (sign = [] ∨ sign = ['+']) ∧ text = sign ++ digits ∧ digits ≠ [] ∧
        (∀ c ∈ digits, c.isDigit = true) ∧ Nat.ofDigitChars 10 digits 0 = n ∧ n < wordCount := by
  have starts : (0 : Nat) < wordCount := by decide
  constructor
  · intro read
    unfold countText at read
    split at read
    · cases read
    · cases read
    · next digits nonempty =>
      refine ⟨['+'], digits, .inr rfl, rfl, ?_, (countDigits_eq_ok_iff digits starts).mp read⟩
      rintro rfl
      exact nonempty rfl
    · next nonempty _ _ =>
      exact ⟨[], text, .inl rfl, rfl, nonempty, (countDigits_eq_ok_iff text starts).mp read⟩
  · rintro ⟨sign, digits, rfl | rfl, rfl, nonempty, read⟩
    · obtain ⟨c, rest, rfl⟩ := List.exists_cons_of_ne_nil nonempty
      have digit : c.isDigit = true := read.1 c List.mem_cons_self
      -- The sign is no digit, so the text is not taken for a signed one.
      have unsigned : c ≠ '+' := by
        rintro rfl
        exact absurd digit (by decide)
      rw [countText]
      · exact (countDigits_eq_ok_iff (c :: rest) starts).mpr read
      · simp
      · simp [unsigned]
      · simp [unsigned]
    · rw [List.singleton_append, countText]
      · exact (countDigits_eq_ok_iff digits starts).mpr read
      · exact fun empty => nonempty empty

/-- Exactly the texts that write a count are read, as that count. -/
theorem readCount_eq_ok_iff (text : String) (count : UInt64) :
    readCount text = .ok count ↔ WritesCount text.toList count := by
  have word : count.toNat < wordCount := count.toNat_lt
  constructor
  · intro read
    cases counted : countText text.toList with
    | error fault =>
      rw [readCount, counted] at read
      cases read
    | ok n =>
      obtain ⟨sign, digits, signed, whole, nonempty, all_digits, value, fits⟩ :=
        (countText_eq_ok_iff _).mp counted
      rw [readCount, counted] at read
      change (if n = 0 then _ else _) = _ at read
      split at read
      · cases read
      · next positive =>
        obtain rfl : UInt64.ofNat n = count := Except.ok.inj read
        have same : (UInt64.ofNat n).toNat = n := UInt64.toNat_ofNat_of_lt' fits
        exact ⟨sign, digits, signed, whole, nonempty, all_digits, by omega, by omega⟩
  · rintro ⟨sign, digits, signed, whole, nonempty, all_digits, value, positive⟩
    have counted : countText text.toList = .ok count.toNat :=
      (countText_eq_ok_iff _).mpr ⟨sign, digits, signed, whole, nonempty, all_digits, value, word⟩
    rw [readCount, counted]
    show (if count.toNat = 0 then _ else _) = _
    rw [if_neg (by omega), UInt64.ofNat_toNat]

end ThresholdDaemon
