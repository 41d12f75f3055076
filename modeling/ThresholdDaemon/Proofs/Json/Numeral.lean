import ThresholdDaemon.Proofs.Json.Yields

/-!
# Integers are read as they were printed

The digits of an integer that fits a machine word are gathered without a digit left over, and what
may stand behind a value is neither a digit, a point nor the mark of an exponent.
-/
namespace ThresholdDaemon.Json.Numeral

/-- The digits of a number, as values. -/
def digitsOf (n : Nat) : List Nat := (decimal n).map fun c => c.toNat - '0'.toNat

/-- The value of a digit is the place of its character. -/
theorem digit?_of_isDigit {c : Char} (digit : c.isDigit = true) :
    digit? c = some (c.toNat - '0'.toNat) := if_pos digit

/-- What may stand behind a value is no digit, no point and no mark of an exponent. -/
theorem closed_apart {rest : List Char} (closed : Closed rest) :
    (∀ c, rest.head? = some c → c.isDigit = false ∧ c ≠ '.' ∧ c ≠ 'e' ∧ c ≠ 'E') := by
  rintro c first
  rcases closed with rfl | ⟨d, more, rfl, closes⟩
  · exact absurd first (by simp)
  · obtain rfl : d = c := Option.some.inj first
    rcases closes with rfl | rfl | rfl <;> decide

/-- Digits are split off up to where a value ends. -/
theorem splitDigits_append {text rest : List Char} (digits : ∀ c ∈ text, c.isDigit = true)
    (closed : Closed rest) :
    splitDigits (text ++ rest) = (text.map fun c => c.toNat - '0'.toNat, rest) := by
  induction text with
  | nil =>
    cases rest with
    | nil => rfl
    | cons c more =>
      have other : digit? c = none :=
        if_neg (Bool.eq_false_iff.mp (closed_apart closed c rfl).1)
      simp only [List.nil_append, splitDigits, other, List.map_nil]
  | cons c text ih =>
    obtain ⟨digit, others⟩ := List.forall_mem_cons.mp digits
    simp only [List.cons_append, splitDigits, digit?_of_isDigit digit, ih others, List.map_cons]

/-- Digits that make no more than the limit are all gathered. -/
theorem gather_eq {limit : Nat} (digits : List Nat) : ∀ significand : Nat,
    digits.foldl (fun value digit => value * 10 + digit) significand ≤ limit →
      gather limit significand digits =
        (digits.foldl (fun value digit => value * 10 + digit) significand, []) := by
  have grows : ∀ (digits : List Nat) (significand : Nat),
      significand ≤ digits.foldl (fun value digit => value * 10 + digit) significand := by
    intro digits
    induction digits with
    | nil => exact fun significand => Nat.le_refl _
    | cons digit rest ih =>
      intro significand
      have more := ih (significand * 10 + digit)
      rw [List.foldl_cons]
      omega
  induction digits with
  | nil => exact fun significand _ => rfl
  | cons digit rest ih =>
    intro significand fits
    rw [List.foldl_cons] at fits ⊢
    have next : ¬ limit < significand * 10 + digit :=
      Nat.not_lt.mpr (Nat.le_trans (grows rest _) fits)
    rw [gather, if_neg next]
    exact ih _ fits

/-- The digits of a number are gathered as the number. -/
theorem gather_digitsOf {n : Nat} (fits : n ≤ significandMax) :
    gather significandMax 0 (digitsOf n) = (n, []) := by
  have whole : (digitsOf n).foldl (fun value digit => value * 10 + digit) 0 = n := by
    have read := @Nat.ofDigitChars_ten_toDigits n
    rw [Nat.ofDigitChars_eq_foldl] at read
    simp only [Nat.mul_comm 10] at read
    rw [digitsOf, List.foldl_map]
    exact read
  have gathered := @gather_eq significandMax (digitsOf n) 0
  rw [whole] at gathered
  exact gathered fits

/-- Printed digits are taken off as the digits of the number. -/
theorem yields_digits (n : Nat) {rest : List Char} (closed : Closed rest) :
    Yields digits (decimal n ++ rest) (digitsOf n) rest := by
  intro position
  have all_digits : ∀ c ∈ decimal n, c.isDigit = true := fun c member =>
    Nat.isDigit_of_mem_toDigits (by decide) (by decide) member
  refine ⟨⟨position.line, position.column + (digitsOf n).length⟩, ?_⟩
  unfold digits
  simp only [splitDigits_append all_digits closed]
  rfl

/-- A number is printed as a zero, or its first digit is none. -/
theorem decimal_cases (n : Nat) :
    (n = 0 ∧ decimal n = ['0']) ∨
      ∃ c more, decimal n = c :: more ∧ c.isDigit = true ∧ c ≠ '0' := by
  induction n using Nat.strongRecOn with
  | ind n ih =>
    unfold decimal at ih ⊢
    rw [Nat.toDigits_eq_if (by decide)]
    by_cases small : n < 10
    · rw [if_pos small]
      have digit : ∀ m < 10, (m = 0 ∧ [m.digitChar] = ['0']) ∨
          (m.digitChar.isDigit = true ∧ m.digitChar ≠ '0') := by decide
      exact (digit n small).imp_right fun digit => ⟨_, [], rfl, digit⟩
    · rw [if_neg small]
      right
      rcases ih (n / 10) (by omega) with ⟨zero, -⟩ | ⟨c, more, front, digit, positive⟩
      · omega
      · exact ⟨c, more ++ [(n % 10).digitChar], by rw [front]; rfl, digit, positive⟩

/-- The digits of an integer that fits a machine word are read as the integer of their sign. -/
theorem yields_unsigned (negative : Bool) {n : Nat} (fits : n ≤ significandMax) {rest : List Char}
    (closed : Closed rest) :
    Yields (unsigned negative) (decimal n ++ rest) (whole negative n) rest := by
  have behind := closed_apart closed
  rcases decimal_cases n with ⟨rfl, zero⟩ | ⟨c, more, front, digit, positive⟩
  · rw [zero]
    refine (Yields.next? _).bind ((Yields.advance '0' rest).bind ((Yields.next? rest).bind ?_))
    cases rest with
    | nil => exact .pure _ _
    | cons d others =>
      obtain ⟨no_digit, no_point, no_mark, no_capital⟩ := behind d rfl
      have no_exponent : isExponentMark (some d) = false := by
        simp [isExponentMark, no_mark, no_capital]
      simp only [List.head?_cons, no_digit, no_exponent, Bool.false_eq_true, if_false]
      exact .pure _ _
  · have taken := yields_digits n closed
    rw [front] at taken ⊢
    refine (Yields.next? _).bind ?_
    simp only [List.cons_append, List.head?_cons, if_pos digit]
    refine taken.bind ?_
    rw [gather_digitsOf fits]
    refine (Yields.next? rest).bind ?_
    cases rest with
    | nil => exact .pure _ _
    | cons d others =>
      obtain ⟨-, no_point, no_mark, no_capital⟩ := behind d rfl
      have no_exponent : isExponentMark (some d) = false := by
        simp [isExponentMark, no_mark, no_capital]
      rw [List.head?_cons]
      split
      · rename_i point
        exact absurd (Option.some.inj point) no_point
      · rw [no_exponent]
        exact .pure _ _

/-- A character that starts a number. -/
def opensNumber (c : Char) : Bool := c = '-' || c.isDigit

/-- The first character of a printed number is a digit. -/
theorem decimal_opens (n : Nat) : ∃ c more, decimal n = c :: more ∧ c.isDigit = true := by
  rcases decimal_cases n with ⟨-, zero⟩ | ⟨c, more, front, digit, -⟩
  · exact ⟨'0', [], zero, by decide⟩
  · exact ⟨c, more, front, digit⟩

/-- An integer is printed with a sign or a digit in front. -/
theorem print_opens {number : Number} (exact : number.toInt?.isSome = true) :
    ∃ c more, print number = c :: more ∧ opensNumber c = true := by
  cases number with
  | natural value =>
    obtain ⟨c, more, front, digit⟩ := decimal_opens value.toNat
    exact ⟨c, more, front, by rw [opensNumber, digit, Bool.or_true]⟩
  | negative predecessor => exact ⟨'-', _, rfl, rfl⟩
  | double bits => cases exact

/-- An integer that fits a machine word is read as it was printed. -/
theorem yields_print {number : Number} (exact : number.toInt?.isSome = true) {rest : List Char}
    (closed : Closed rest) : Yields read (print number ++ rest) number rest := by
  cases number with
  | natural value =>
    have fits : value.toNat ≤ significandMax := Nat.le_pred_of_lt value.toNat_lt
    have taken := yields_unsigned false fits closed
    have same : whole false value.toNat = .natural value := by simp [whole]
    rw [same] at taken
    obtain ⟨c, more, front, digit⟩ := decimal_opens value.toNat
    have no_sign : some c ≠ some '-' := by
      rintro sign
      cases sign
      exact absurd digit (by decide)
    show Yields read (decimal value.toNat ++ rest) _ _
    rw [front] at taken ⊢
    refine (Yields.next? _).bind ?_
    rw [List.cons_append, List.head?_cons, if_neg no_sign]
    exact taken
  | negative predecessor =>
    have fits : predecessor.val + 1 ≤ significandMax := by
      have small : predecessor.val < 9223372036854775808 := predecessor.isLt
      show predecessor.val + 1 ≤ 18446744073709551615
      omega
    have taken := yields_unsigned true fits closed
    have same : whole true (predecessor.val + 1) = .negative predecessor :=
      dif_pos predecessor.isLt
    rw [same] at taken
    exact (Yields.next? _).bind ((Yields.advance '-' _).bind taken)
  | double bits => cases exact

end ThresholdDaemon.Json.Numeral
