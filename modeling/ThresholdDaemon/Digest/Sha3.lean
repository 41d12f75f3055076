import ThresholdDaemon.Text.Utf8

/-!
# SHA3-256

The state of the digest is a square of five by five lanes, each a word. A block of the message is
added to the first lanes and the state is permuted, in 24 rounds of five step mappings. The
message is padded to whole blocks.
-/
namespace ThresholdDaemon.Digest

/-- The lanes; lane `(x, y)` is at `x + 5 * y`. -/
abbrev Lanes := Vector UInt64 25

namespace Lanes

/-- A lane, with both coordinates modulo five. -/
def lane (state : Lanes) (x y : Nat) : UInt64 :=
  state.get ⟨(x % 5 + 5 * (y % 5)) % 25, Nat.mod_lt _ (by decide)⟩

/-- The state with a lane for each pair of coordinates. -/
def build (f : (x y : Nat) → UInt64) : Lanes := Vector.ofFn fun i => f (i.val % 5) (i.val / 5)

/-- A word rotated to the left. -/
def rotate (word : UInt64) (count : Nat) : UInt64 :=
  if count = 0 then word
  else (word <<< UInt64.ofNat count) ||| (word >>> UInt64.ofNat (64 - count))

/-- The parity of a column. -/
def parity (state : Lanes) (x : Nat) : UInt64 :=
  state.lane x 0 ^^^ state.lane x 1 ^^^ state.lane x 2 ^^^ state.lane x 3 ^^^ state.lane x 4

/-- Add the parities of two neighbouring columns to each lane. -/
def theta (state : Lanes) : Lanes :=
  let columns := Vector.ofFn fun (x : Fin 5) => state.parity x
  let column (x : Nat) : UInt64 := columns.get ⟨x % 5, Nat.mod_lt _ (by decide)⟩
  let effects := Vector.ofFn fun (x : Fin 5) => column (x + 4) ^^^ rotate (column (x + 1)) 1
  build fun x y => state.lane x y ^^^ effects.get ⟨x % 5, Nat.mod_lt _ (by decide)⟩

/-- How far each lane is rotated. -/
def rotations : Vector Nat 25 :=
  #v[0, 1, 62, 28, 27, 36, 44, 6, 55, 20, 3, 10, 43, 25, 39, 41, 45, 15, 21, 8, 18, 2, 61, 56, 14]

/-- Rotate each lane and move it to its new place. -/
def rhoPi (state : Lanes) : Lanes :=
  build fun x y =>
    let i : Fin 25 := ⟨((x + 3 * y) % 5 + 5 * x) % 25, Nat.mod_lt _ (by decide)⟩
    rotate state[i] rotations[i]

/-- Combine each lane with the next two of its row. -/
def chi (state : Lanes) : Lanes :=
  build fun x y =>
    state.lane x y ^^^ ((~~~(state.lane (x + 1) y)) &&& state.lane (x + 2) y)

/-- Add a constant to the first lane. -/
def iota (constant : UInt64) (state : Lanes) : Lanes := state.set 0 (state[0] ^^^ constant)

/-- The constants of the rounds. -/
def roundConstants : List UInt64 :=
  [0x0000000000000001, 0x0000000000008082, 0x800000000000808a, 0x8000000080008000,
   0x000000000000808b, 0x0000000080000001, 0x8000000080008081, 0x8000000000008009,
   0x000000000000008a, 0x0000000000000088, 0x0000000080008009, 0x000000008000000a,
   0x000000008000808b, 0x800000000000008b, 0x8000000000008089, 0x8000000000008003,
   0x8000000000008002, 0x8000000000000080, 0x000000000000800a, 0x800000008000000a,
   0x8000000080008081, 0x8000000000008080, 0x0000000080000001, 0x8000000080008008]

/-- All rounds. -/
def permute (state : Lanes) : Lanes :=
  roundConstants.foldl (fun state constant => iota constant state.theta.rhoPi.chi) state

end Lanes

/-- The word of up to eight bytes, least significant first. -/
def littleEndian64 (bytes : Bytes) : UInt64 :=
  bytes.foldr (fun byte word => (word <<< 8) ||| byte.toUInt64) 0

/-- The bytes of a word, least significant first. -/
def bytesOfWord (word : UInt64) : Bytes :=
  (List.range 8).map fun i => (word >>> UInt64.ofNat (8 * i)).toUInt8

namespace Sha3

/-- The bytes of a block. -/
def rate : Nat := 136

/-- The bytes of a digest. -/
def size : Nat := 32

/-- The last block: what is left of the message, the mark of this digest and the mark of the
end. -/
def lastBlock (rest : Bytes) : Bytes :=
  if rest.length + 1 = rate then rest ++ [0x86]
  else rest ++ 0x06 :: List.replicate (rate - 2 - rest.length) 0 ++ [0x80]

/-- Add a block to the state and permute it. -/
def absorb (state : Lanes) (block : Bytes) : Lanes :=
  Lanes.permute (Vector.ofFn fun (i : Fin 25) =>
    state[i] ^^^ littleEndian64 ((block.drop (8 * i.val)).take 8))

/-- Add all blocks of a message. -/
def absorbAll (state : Lanes) (message : Bytes) : Lanes :=
  if message.length < rate then absorb state (lastBlock message)
  else absorbAll (absorb state (message.take rate)) (message.drop rate)
termination_by message.length
decreasing_by simp [rate] at *; omega

end Sha3

/-- The digest of a message. -/
def sha3 (message : Bytes) : Bytes :=
  ((Sha3.absorbAll (Vector.replicate 25 0) message).toList.flatMap bytesOfWord).take Sha3.size

end ThresholdDaemon.Digest
