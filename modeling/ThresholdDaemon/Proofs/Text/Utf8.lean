import ThresholdDaemon.Text.Utf8

/-!
# Encoded text is decoded, and nothing else is

The bytes of a character are decoded as the character, whatever stands behind them: its first byte
tells how many others follow, and no character is written with more bytes than it needs, as a half
of a surrogate pair, or above the last code point. The other way round, bytes that are decoded as a
character are all of its bytes, so a text has no second encoding.
-/
namespace ThresholdDaemon.Utf8

variable {first second third fourth : UInt8} {rest : Bytes}

/-- Bounds of a byte hold if they hold of its value. -/
theorem between_iff {low byte high : UInt8} :
    (low ≤ byte && byte ≤ high) = true ↔ low.toNat ≤ byte.toNat ∧ byte.toNat ≤ high.toNat := by
  rw [Bool.and_eq_true, decide_eq_true_eq, decide_eq_true_eq, UInt8.le_iff_toNat_le,
    UInt8.le_iff_toNat_le]

/-- Bounds of a byte fail if they fail of its value. -/
theorem not_between {low byte high : UInt8}
    (outside : byte.toNat < low.toNat ∨ high.toNat < byte.toNat) :
    (low ≤ byte && byte ≤ high) = false := by
  rw [Bool.eq_false_iff, ne_eq, between_iff]
  omega

/-- A second byte that continues opens three, unless the first byte asks for less. -/
theorem opensThree_of_bounds (continues : 0x80 ≤ second.toNat ∧ second.toNat ≤ 0xBF)
    (least : first.toNat = 0xE0 → 0xA0 ≤ second.toNat)
    (most : first.toNat = 0xED → second.toNat ≤ 0x9F) : opensThree first second = true := by
  unfold opensThree
  by_cases lowest : first = 0xE0
  · rw [if_pos lowest]
    exact between_iff.mpr ⟨least (congrArg UInt8.toNat lowest), continues.2⟩
  rw [if_neg lowest]
  by_cases surrogates : first = 0xED
  · rw [if_pos surrogates]
    exact between_iff.mpr ⟨continues.1, most (congrArg UInt8.toNat surrogates)⟩
  rw [if_neg surrogates]
  exact between_iff.mpr continues

/-- A second byte that continues opens four, unless the first byte asks for less. -/
theorem opensFour_of_bounds (continues : 0x80 ≤ second.toNat ∧ second.toNat ≤ 0xBF)
    (least : first.toNat = 0xF0 → 0x90 ≤ second.toNat)
    (most : first.toNat = 0xF4 → second.toNat ≤ 0x8F) : opensFour first second = true := by
  unfold opensFour
  by_cases lowest : first = 0xF0
  · rw [if_pos lowest]
    exact between_iff.mpr ⟨least (congrArg UInt8.toNat lowest), continues.2⟩
  rw [if_neg lowest]
  by_cases highest : first = 0xF4
  · rw [if_pos highest]
    exact between_iff.mpr ⟨continues.1, most (congrArg UInt8.toNat highest)⟩
  rw [if_neg highest]
  exact between_iff.mpr continues

/-- Bounds of a byte are bounds of its value. -/
theorem toNat_of_isContinuation (continues : isContinuation second = true) :
    0x80 ≤ second.toNat ∧ second.toNat ≤ 0xBF := between_iff.mp continues

/-- What opens three goes on with a continuation, which is neither too small nor a surrogate. -/
theorem bounds_of_opensThree (opens : opensThree first second = true) :
    (0x80 ≤ second.toNat ∧ second.toNat ≤ 0xBF) ∧
      (first.toNat = 0xE0 → 0xA0 ≤ second.toNat) ∧ (first.toNat = 0xED → second.toNat ≤ 0x9F) := by
  have value {byte : UInt8} (same : first.toNat = byte.toNat) : first = byte :=
    UInt8.toNat_inj.mp same
  unfold opensThree at opens
  by_cases lowest : first = 0xE0
  · rw [if_pos lowest] at opens
    have bounds : 0xA0 ≤ second.toNat ∧ second.toNat ≤ 0xBF := between_iff.mp opens
    have opening : first.toNat = 0xE0 := congrArg UInt8.toNat lowest
    omega
  rw [if_neg lowest] at opens
  have not_lowest : first.toNat ≠ 0xE0 := fun same => lowest (value same)
  by_cases surrogates : first = 0xED
  · rw [if_pos surrogates] at opens
    have bounds : 0x80 ≤ second.toNat ∧ second.toNat ≤ 0x9F := between_iff.mp opens
    omega
  rw [if_neg surrogates] at opens
  have not_surrogates : first.toNat ≠ 0xED := fun same => surrogates (value same)
  have bounds := toNat_of_isContinuation opens
  omega

/-- What opens four goes on with a continuation, which is neither too small nor too large. -/
theorem bounds_of_opensFour (opens : opensFour first second = true) :
    (0x80 ≤ second.toNat ∧ second.toNat ≤ 0xBF) ∧
      (first.toNat = 0xF0 → 0x90 ≤ second.toNat) ∧ (first.toNat = 0xF4 → second.toNat ≤ 0x8F) := by
  have value {byte : UInt8} (same : first.toNat = byte.toNat) : first = byte :=
    UInt8.toNat_inj.mp same
  unfold opensFour at opens
  by_cases lowest : first = 0xF0
  · rw [if_pos lowest] at opens
    have bounds : 0x90 ≤ second.toNat ∧ second.toNat ≤ 0xBF := between_iff.mp opens
    have opening : first.toNat = 0xF0 := congrArg UInt8.toNat lowest
    omega
  rw [if_neg lowest] at opens
  have not_lowest : first.toNat ≠ 0xF0 := fun same => lowest (value same)
  by_cases highest : first = 0xF4
  · rw [if_pos highest] at opens
    have bounds : 0x80 ≤ second.toNat ∧ second.toNat ≤ 0x8F := between_iff.mp opens
    omega
  rw [if_neg highest] at opens
  have not_highest : first.toNat ≠ 0xF4 := fun same => highest (value same)
  have bounds := toNat_of_isContinuation opens
  omega

/-- A byte below the first continuation is a character. -/
theorem decodeFrom_one (index : Nat) (ascii : first.toNat < 0x80) :
    decodeFrom index (first :: rest) =
      (Char.ofNat first.toNat :: ·) <$> decodeFrom (index + 1) rest := by
  rw [decodeFrom.eq_def]
  dsimp only
  rw [if_pos (UInt8.lt_iff_toNat_lt.mpr ascii)]

/-- Two bytes are a character. -/
theorem decodeFrom_two (index : Nat) (opens : 0xC2 ≤ first.toNat ∧ first.toNat ≤ 0xDF)
    (continues : isContinuation second = true) :
    decodeFrom index (first :: second :: rest) =
      (Char.ofNat ((first.toNat - 0xC0) * 64 + low second) :: ·) <$>
        decodeFrom (index + 2) rest := by
  have above : ¬ first < 0x80 := by
    rw [UInt8.lt_iff_toNat_lt]
    exact Nat.not_lt.mpr (Nat.le_trans (by decide) opens.1)
  have two : (0xC2 ≤ first && first ≤ 0xDF) = true := between_iff.mpr opens
  rw [decodeFrom.eq_def]
  dsimp only
  rw [if_neg above, if_pos two]
  simp only [continues, if_true]

/-- Three bytes are a character. -/
theorem decodeFrom_three (index : Nat) (opens : 0xE0 ≤ first.toNat ∧ first.toNat ≤ 0xEF)
    (goes_on : opensThree first second = true) (continues : isContinuation third = true) :
    decodeFrom index (first :: second :: third :: rest) =
      (Char.ofNat (((first.toNat - 0xE0) * 64 + low second) * 64 + low third) :: ·) <$>
        decodeFrom (index + 3) rest := by
  have above : ¬ first < 0x80 := by
    rw [UInt8.lt_iff_toNat_lt]
    exact Nat.not_lt.mpr (Nat.le_trans (by decide) opens.1)
  have not_two : (0xC2 ≤ first && first ≤ 0xDF) = false :=
    not_between (.inr (Nat.lt_of_lt_of_le (by decide) opens.1))
  have three : (0xE0 ≤ first && first ≤ 0xEF) = true := between_iff.mpr opens
  rw [decodeFrom.eq_def]
  dsimp only
  rw [if_neg above, not_two, if_neg Bool.false_ne_true, if_pos three]
  simp only [goes_on, continues, if_true]

/-- Four bytes are a character. -/
theorem decodeFrom_four (index : Nat) (opens : 0xF0 ≤ first.toNat ∧ first.toNat ≤ 0xF4)
    (goes_on : opensFour first second = true) (continues : isContinuation third = true)
    (ends : isContinuation fourth = true) :
    decodeFrom index (first :: second :: third :: fourth :: rest) =
      (Char.ofNat ((((first.toNat - 0xF0) * 64 + low second) * 64 + low third) * 64 +
        low fourth) :: ·) <$> decodeFrom (index + 4) rest := by
  have above : ¬ first < 0x80 := by
    rw [UInt8.lt_iff_toNat_lt]
    exact Nat.not_lt.mpr (Nat.le_trans (by decide) opens.1)
  have not_two : (0xC2 ≤ first && first ≤ 0xDF) = false :=
    not_between (.inr (Nat.lt_of_lt_of_le (by decide) opens.1))
  have not_three : (0xE0 ≤ first && first ≤ 0xEF) = false :=
    not_between (.inr (Nat.lt_of_lt_of_le (by decide) opens.1))
  have four : (0xF0 ≤ first && first ≤ 0xF4) = true := between_iff.mpr opens
  rw [decodeFrom.eq_def]
  dsimp only
  rw [if_neg above, not_two, if_neg Bool.false_ne_true, not_three, if_neg Bool.false_ne_true,
    if_pos four]
  simp only [goes_on, continues, ends, if_true]

/-- The byte of a value is that value. -/
theorem toNat_ofNat {n : Nat} (small : n < 256) : (UInt8.ofNat n).toNat = n :=
  UInt8.toNat_ofNat_of_lt' small

/-- Six bits behind the mark of a continuation are one. -/
theorem isContinuation_ofNat (n : Nat) : isContinuation (UInt8.ofNat (n % 64 + 128)) = true := by
  have value : (UInt8.ofNat (n % 64 + 128)).toNat = n % 64 + 128 := toNat_ofNat (by omega)
  have least : (0x80 : UInt8).toNat = 128 := rfl
  have most : (0xBF : UInt8).toNat = 191 := rfl
  rw [isContinuation, between_iff, value, least, most]
  omega

/-- The bits of a continuation are those behind its mark. -/
theorem low_ofNat (n : Nat) : low (UInt8.ofNat (n % 64 + 128)) = n % 64 := by
  have value : (UInt8.ofNat (n % 64 + 128)).toNat = n % 64 + 128 := toNat_ofNat (by omega)
  unfold low
  rw [value]
  exact Nat.add_sub_cancel _ _

/-- The bytes of a character are decoded as the character. -/
theorem decodeFrom_utf8EncodeChar (index : Nat) (c : Char) (rest : Bytes) :
    decodeFrom index (String.utf8EncodeChar c ++ rest) =
      (c :: ·) <$> decodeFrom (index + (String.utf8EncodeChar c).length) rest := by
  have valid : c.val.toNat < 0xD800 ∨ (0xDFFF < c.val.toNat ∧ c.val.toNat < 0x110000) := c.valid
  have point : Char.ofNat c.val.toNat = c := Char.ofNat_toNat c
  unfold String.utf8EncodeChar
  generalize c.val.toNat = n at valid point ⊢
  dsimp only
  by_cases one : n ≤ 127
  · have value : (UInt8.ofNat n).toNat = n := toNat_ofNat (by omega)
    rw [if_pos one]
    refine (decodeFrom_one index (by omega)).trans ?_
    rw [value, point]
    rfl
  rw [if_neg one]
  by_cases two : n ≤ 2047
  · have value : (UInt8.ofNat (n / 64 % 32 + 192)).toNat = n / 64 % 32 + 192 :=
      toNat_ofNat (by omega)
    rw [if_pos two]
    refine (decodeFrom_two index (by omega) (isContinuation_ofNat n)).trans ?_
    have bits : (n / 64 % 32 + 192 - 0xC0) * 64 + n % 64 = n := by omega
    rw [value, low_ofNat, bits, point]
    rfl
  rw [if_neg two]
  by_cases three : n ≤ 65535
  · have value : (UInt8.ofNat (n / 4096 % 16 + 224)).toNat = n / 4096 % 16 + 224 :=
      toNat_ofNat (by omega)
    rw [if_pos three]
    have goes_on : opensThree (UInt8.ofNat (n / 4096 % 16 + 224))
        (UInt8.ofNat (n / 64 % 64 + 128)) = true := by
      have next : (UInt8.ofNat (n / 64 % 64 + 128)).toNat = n / 64 % 64 + 128 :=
        toNat_ofNat (by omega)
      apply opensThree_of_bounds <;> omega
    refine (decodeFrom_three index (by omega) goes_on (isContinuation_ofNat n)).trans ?_
    have bits : ((n / 4096 % 16 + 224 - 0xE0) * 64 + n / 64 % 64) * 64 + n % 64 = n := by omega
    rw [value, low_ofNat, low_ofNat, bits, point]
    rfl
  rw [if_neg three]
  have value : (UInt8.ofNat (n / 262144 % 8 + 240)).toNat = n / 262144 % 8 + 240 :=
    toNat_ofNat (by omega)
  have goes_on : opensFour (UInt8.ofNat (n / 262144 % 8 + 240))
      (UInt8.ofNat (n / 4096 % 64 + 128)) = true := by
    have next : (UInt8.ofNat (n / 4096 % 64 + 128)).toNat = n / 4096 % 64 + 128 :=
      toNat_ofNat (by omega)
    apply opensFour_of_bounds <;> omega
  refine (decodeFrom_four index (by omega) goes_on (isContinuation_ofNat (n / 64))
    (isContinuation_ofNat n)).trans ?_
  have bits : (((n / 262144 % 8 + 240 - 0xF0) * 64 + n / 4096 % 64) * 64 + n / 64 % 64) * 64 +
      n % 64 = n := by omega
  rw [value, low_ofNat, low_ofNat, low_ofNat, bits, point]
  rfl

/-- Behind the bytes of a text, the rest is decoded on its own. -/
theorem decodeFrom_encode_append (front : List Char) (bytes : Bytes) : ∀ index,
    decodeFrom index (encode front ++ bytes) =
      (front ++ ·) <$> decodeFrom (index + (encode front).length) bytes := by
  induction front with
  | nil =>
    intro index
    show decodeFrom index bytes = id <$> decodeFrom index bytes
    rw [id_map]
  | cons c front ih =>
    intro index
    have first : encode (c :: front) = String.utf8EncodeChar c ++ encode front := List.flatMap_cons
    rw [first, List.append_assoc, decodeFrom_utf8EncodeChar, ih, List.length_append, Nat.add_assoc]
    cases decodeFrom (index + ((String.utf8EncodeChar c).length + (encode front).length)) bytes <;>
      rfl

/-- Encoded text is decoded. -/
theorem decode_encode (text : List Char) : decode (encode text) = .ok text := by
  have alone := decodeFrom_encode_append text [] 0
  rw [List.append_nil] at alone
  refine alone.trans ?_
  show Except.ok (text ++ []) = Except.ok text
  rw [List.append_nil]

/-- Different texts have different bytes. -/
theorem encode_injective : Function.Injective encode := by
  intro left right same
  have decoded := decode_encode left
  rw [same, decode_encode] at decoded
  exact (Except.ok.inj decoded).symm

/-- A code point that is no half of a surrogate pair is that of its character. -/
theorem val_ofNat {n : Nat} (valid : n < 0xD800 ∨ (0xDFFF < n ∧ n < 0x110000)) :
    (Char.ofNat n).val.toNat = n := by
  unfold Char.ofNat
  rw [dif_pos valid]
  rfl

/-- Six bits behind the mark of a continuation are a byte that continues with them. -/
theorem ofNat_low {n : Nat} (continues : isContinuation second = true)
    (bits : n % 64 = low second) :
    UInt8.ofNat (n % 64 + 128) = second := by
  have bounds := toNat_of_isContinuation continues
  have value : n % 64 + 128 = second.toNat := by
    have behind_mark : low second = second.toNat - 0x80 := rfl
    omega
  rw [value]
  exact UInt8.ofNat_toNat

/-- The bits of a continuation are fewer than seven. -/
theorem low_lt (continues : isContinuation second = true) : low second < 64 := by
  have bounds := toNat_of_isContinuation continues
  unfold low
  omega

/-- A byte that is a character is all of its bytes. -/
theorem utf8EncodeChar_one (ascii : first.toNat < 0x80) :
    String.utf8EncodeChar (Char.ofNat first.toNat) = [first] := by
  have point := val_ofNat (n := first.toNat) (by omega)
  unfold String.utf8EncodeChar
  rw [point]
  dsimp only
  rw [if_pos (by omega), UInt8.ofNat_toNat]

/-- Two bytes that are a character are all of its bytes. -/
theorem utf8EncodeChar_two (opens : 0xC2 ≤ first.toNat ∧ first.toNat ≤ 0xDF)
    (continues : isContinuation second = true) :
    String.utf8EncodeChar (Char.ofNat ((first.toNat - 0xC0) * 64 + low second)) =
      [first, second] := by
  have bits := low_lt continues
  have point := val_ofNat (n := (first.toNat - 0xC0) * 64 + low second) (by omega)
  have last := ofNat_low continues (n := (first.toNat - 0xC0) * 64 + low second) (by omega)
  have leading : ((first.toNat - 0xC0) * 64 + low second) / 64 % 32 + 192 = first.toNat := by omega
  unfold String.utf8EncodeChar
  rw [point]
  dsimp only
  rw [if_neg (by omega), if_pos (by omega), last, leading, UInt8.ofNat_toNat]

/-- Three bytes that are a character are all of its bytes. -/
theorem utf8EncodeChar_three (opens : 0xE0 ≤ first.toNat ∧ first.toNat ≤ 0xEF)
    (goes_on : opensThree first second = true) (continues : isContinuation third = true) :
    String.utf8EncodeChar (Char.ofNat (((first.toNat - 0xE0) * 64 + low second) * 64 + low third)) =
      [first, second, third] := by
  obtain ⟨middle, least, most⟩ := bounds_of_opensThree goes_on
  have middle_bits : low second = second.toNat - 0x80 := rfl
  have bits := low_lt continues
  generalize code : ((first.toNat - 0xE0) * 64 + low second) * 64 + low third = n
  have point := val_ofNat (n := n) (by omega)
  have last := ofNat_low continues (n := n) (by omega)
  have next := ofNat_low (between_iff.mpr middle) (n := n / 64) (by omega)
  have leading : n / 4096 % 16 + 224 = first.toNat := by omega
  unfold String.utf8EncodeChar
  rw [point]
  dsimp only
  rw [if_neg (by omega), if_neg (by omega), if_pos (by omega), last, next, leading,
    UInt8.ofNat_toNat]

/-- Four bytes that are a character are all of its bytes. -/
theorem utf8EncodeChar_four (opens : 0xF0 ≤ first.toNat ∧ first.toNat ≤ 0xF4)
    (goes_on : opensFour first second = true) (continues : isContinuation third = true)
    (ends : isContinuation fourth = true) :
    String.utf8EncodeChar (Char.ofNat ((((first.toNat - 0xF0) * 64 + low second) * 64 +
      low third) * 64 + low fourth)) = [first, second, third, fourth] := by
  obtain ⟨middle, least, most⟩ := bounds_of_opensFour goes_on
  have middle_bits : low second = second.toNat - 0x80 := rfl
  have third_bits := low_lt continues
  have bits := low_lt ends
  generalize code :
    (((first.toNat - 0xF0) * 64 + low second) * 64 + low third) * 64 + low fourth = n
  have point := val_ofNat (n := n) (by omega)
  have last := ofNat_low ends (n := n) (by omega)
  have later := ofNat_low continues (n := n / 64) (by omega)
  have next := ofNat_low (between_iff.mpr middle) (n := n / 4096) (by omega)
  have leading : n / 262144 % 8 + 240 = first.toNat := by omega
  unfold String.utf8EncodeChar
  rw [point]
  dsimp only
  rw [if_neg (by omega), if_neg (by omega), if_neg (by omega), last, later, next, leading,
    UInt8.ofNat_toNat]

/-- What is decoded with a first character ends with what is decoded behind it. -/
theorem exists_of_map_cons {c : Char} {behind : Except Fault (List Char)} {text : List Char}
    (decoded : (c :: ·) <$> behind = .ok text) : ∃ more, behind = .ok more ∧ text = c :: more := by
  cases behind with
  | error fault => exact nomatch decoded
  | ok more => exact ⟨more, rfl, (Except.ok.inj decoded).symm⟩

/-- Only the bytes of a text are decoded as it. -/
theorem eq_encode_of_decodeFrom {index : Nat} {bytes : Bytes} {text : List Char}
    (decoded : decodeFrom index bytes = .ok text) : bytes = encode text := by
  have cons (c : Char) (more : List Char) :
      encode (c :: more) = String.utf8EncodeChar c ++ encode more := List.flatMap_cons
  -- Four of the cases decode a character, and each of the others has found a fault.
  fun_induction decodeFrom index bytes generalizing text with
  | case1 => exact Except.ok.inj decoded ▸ rfl
  | case2 index first rest ascii ih =>
    obtain ⟨more, behind, rfl⟩ := exists_of_map_cons decoded
    have opens : first.toNat < 0x80 := UInt8.lt_iff_toNat_lt.mp ascii
    rw [cons, utf8EncodeChar_one opens, ih behind]
    rfl
  | case4 index first _ opens second rest continues ih =>
    obtain ⟨more, behind, rfl⟩ := exists_of_map_cons decoded
    rw [cons, utf8EncodeChar_two (between_iff.mp opens) continues, ih behind]
    rfl
  | case8 index first _ _ opens second goes_on third rest continues ih =>
    obtain ⟨more, behind, rfl⟩ := exists_of_map_cons decoded
    rw [cons, utf8EncodeChar_three (between_iff.mp opens) goes_on continues, ih behind]
    rfl
  | case14 index first _ _ _ opens second goes_on third continues fourth rest ends ih =>
    obtain ⟨more, behind, rfl⟩ := exists_of_map_cons decoded
    rw [cons, utf8EncodeChar_four (between_iff.mp opens) goes_on continues ends, ih behind]
    rfl
  | _ => exact nomatch decoded

/-- The bytes of texts one after the other. -/
theorem encode_append (front back : List Char) :
    encode (front ++ back) = encode front ++ encode back := List.flatMap_append

/-- A text whose bytes start with one below the first continuation starts with that character. -/
theorem exists_of_encode_eq_cons {text : List Char} (ascii : first.toNat < 0x80)
    (bytes : encode text = first :: rest) :
    ∃ more, text = Char.ofNat first.toNat :: more ∧ encode more = rest := by
  have decoded : decodeFrom 0 (first :: rest) = .ok text := bytes ▸ decode_encode text
  rw [decodeFrom_one 0 ascii] at decoded
  obtain ⟨more, behind, rfl⟩ := exists_of_map_cons decoded
  exact ⟨more, rfl, (eq_encode_of_decodeFrom behind).symm⟩

/-- Bytes are decoded as a text exactly if they are its bytes. -/
theorem decode_eq_ok_iff {bytes : Bytes} {text : List Char} :
    decode bytes = .ok text ↔ bytes = encode text := by
  constructor
  · exact eq_encode_of_decodeFrom
  · rintro rfl
    exact decode_encode text

end ThresholdDaemon.Utf8
