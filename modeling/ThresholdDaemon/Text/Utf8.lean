/-!
# UTF-8

The bytes of a text and the text of some bytes. Decoding reads one character at a time and stops
at the first byte that cannot belong to one, reporting how many bytes before it are sound and
whether the sequence it starts is wrong or only cut short. `encode` is the inverse of a
successful decoding.
-/
namespace ThresholdDaemon

/-- A string of bytes in wire order. -/
abbrev Bytes := List UInt8

namespace Utf8

/-- Why some bytes are not UTF-8. -/
inductive Flaw where
  /-- The sequence that starts here is wrong after this many bytes. -/
  | wrong (length : Nat)
  /-- The bytes end inside the sequence that starts here. -/
  | cut
  deriving DecidableEq, Repr

/-- The first place where some bytes stop being UTF-8. -/
structure Fault where
  /-- The number of sound bytes in front. -/
  index : Nat
  /-- What is wrong there. -/
  flaw : Flaw
  deriving DecidableEq, Repr

/-- The text of a fault. -/
def Fault.message (fault : Fault) : String :=
  match fault.flaw with
  | .wrong length =>
    "invalid utf-8 sequence of " ++ toString length ++ " bytes from index " ++ toString fault.index
  | .cut => "incomplete utf-8 byte sequence from index " ++ toString fault.index

/-- The UTF-8 bytes of some characters. -/
def encode (text : List Char) : Bytes := text.flatMap String.utf8EncodeChar

/-- A byte that continues a sequence. -/
def isContinuation (byte : UInt8) : Bool := 0x80 ≤ byte && byte ≤ 0xBF

/-- The second bytes that may follow the first byte of a three-byte sequence: no overlong form
and no surrogate. -/
def opensThree (first second : UInt8) : Bool :=
  if first = 0xE0 then 0xA0 ≤ second && second ≤ 0xBF
  else if first = 0xED then 0x80 ≤ second && second ≤ 0x9F
  else isContinuation second

/-- The second bytes that may follow the first byte of a four-byte sequence: no overlong form
and nothing above the last code point. -/
def opensFour (first second : UInt8) : Bool :=
  if first = 0xF0 then 0x90 ≤ second && second ≤ 0xBF
  else if first = 0xF4 then 0x80 ≤ second && second ≤ 0x8F
  else isContinuation second

/-- The six payload bits of a continuation byte. -/
def low (byte : UInt8) : Nat := byte.toNat - 0x80

/-- Decode bytes of which `index` sound ones are already behind. -/
def decodeFrom (index : Nat) : Bytes → Except Fault (List Char)
  | [] => .ok []
  | first :: rest =>
    if first < 0x80 then
      (Char.ofNat first.toNat :: ·) <$> decodeFrom (index + 1) rest
    else if 0xC2 ≤ first && first ≤ 0xDF then
      match rest with
      | [] => .error ⟨index, .cut⟩
      | second :: rest =>
        if isContinuation second then
          (Char.ofNat ((first.toNat - 0xC0) * 64 + low second) :: ·) <$> decodeFrom (index + 2) rest
        else .error ⟨index, .wrong 1⟩
    else if 0xE0 ≤ first && first ≤ 0xEF then
      match rest with
      | [] => .error ⟨index, .cut⟩
      | second :: rest =>
        if opensThree first second then
          match rest with
          | [] => .error ⟨index, .cut⟩
          | third :: rest =>
            if isContinuation third then
              (Char.ofNat (((first.toNat - 0xE0) * 64 + low second) * 64 + low third) :: ·) <$>
                decodeFrom (index + 3) rest
            else .error ⟨index, .wrong 2⟩
        else .error ⟨index, .wrong 1⟩
    else if 0xF0 ≤ first && first ≤ 0xF4 then
      match rest with
      | [] => .error ⟨index, .cut⟩
      | second :: rest =>
        if opensFour first second then
          match rest with
          | [] => .error ⟨index, .cut⟩
          | third :: rest =>
            if isContinuation third then
              match rest with
              | [] => .error ⟨index, .cut⟩
              | fourth :: rest =>
                if isContinuation fourth then
                  (Char.ofNat ((((first.toNat - 0xF0) * 64 + low second) * 64 + low third) * 64 +
                    low fourth) :: ·) <$> decodeFrom (index + 4) rest
                else .error ⟨index, .wrong 3⟩
            else .error ⟨index, .wrong 2⟩
        else .error ⟨index, .wrong 1⟩
    else .error ⟨index, .wrong 1⟩

/-- The characters of some bytes, or the first place where they stop being UTF-8. -/
def decode (bytes : Bytes) : Except Fault (List Char) := decodeFrom 0 bytes

/-- The characters of some bytes, with a replacement character for each run of bytes that is
none. -/
def lossy (bytes : Bytes) : List Char :=
  match decode bytes with
  | .ok text => text
  | .error ⟨index, flaw⟩ =>
    let sound := (decode (bytes.take index)).toOption.getD []
    match flaw with
    | .cut => sound ++ ['\ufffd']
    | .wrong length =>
      let behind := index + (length - 1) + 1
      if behind < bytes.length then sound ++ '\ufffd' :: lossy (bytes.drop behind)
      else sound ++ ['\ufffd']
termination_by bytes.length
decreasing_by simp only [List.length_drop]; omega

end Utf8

/-- The UTF-8 bytes of a text. -/
def Bytes.ofString (text : String) : Bytes := Utf8.encode text.toList

end ThresholdDaemon
