import ThresholdDaemon.Text.Utf8

/-!
# A stream of words from a key

ChaCha with twenty rounds: a block is made of constants, the key, a counter of two words and two
zero words, and permuted. The words of the blocks for the counters from zero on are the stream.
-/
namespace ThresholdDaemon.Digest

/-- Sixteen words. -/
abbrev Block := Vector UInt32 16

namespace Block

/-- A word rotated to the left. -/
def rotate (word : UInt32) (count : UInt32) : UInt32 :=
  (word <<< count) ||| (word >>> (32 - count))

/-- Stir four words of a block. -/
def quarterRound (block : Block) (i j k l : Fin 16) : Block :=
  let a := block[i] + block[j]
  let d := rotate (block[l] ^^^ a) 16
  let c := block[k] + d
  let b := rotate (block[j] ^^^ c) 12
  let a := a + b
  let d := rotate (d ^^^ a) 8
  let c := c + d
  let b := rotate (b ^^^ c) 7
  (((block.set i a).set j b).set k c).set l d

/-- Stir the columns and then the diagonals. -/
def doubleRound (block : Block) : Block :=
  let block := block.quarterRound 0 4 8 12
  let block := block.quarterRound 1 5 9 13
  let block := block.quarterRound 2 6 10 14
  let block := block.quarterRound 3 7 11 15
  let block := block.quarterRound 0 5 10 15
  let block := block.quarterRound 1 6 11 12
  let block := block.quarterRound 2 7 8 13
  block.quarterRound 3 4 9 14

/-- All rounds, added to the block they start from. -/
def permute (block : Block) : Block :=
  let stirred := (List.range 10).foldl (fun block _ => doubleRound block) block
  Vector.ofFn fun (i : Fin 16) => stirred[i] + block[i]

end Block

/-- A stream of words: the key, the counter of the next block and the words left of the last
one. -/
structure Keystream where
  /-- The eight words of the key. -/
  key : Vector UInt32 8
  /-- The counter of the next block. -/
  counter : UInt64 := 0
  /-- The words left of the last block. -/
  left : List UInt32 := []

namespace Keystream

/-- The word of four bytes, least significant first. -/
def littleEndian32 (bytes : Bytes) : UInt32 :=
  bytes.foldr (fun byte word => (word <<< 8) ||| byte.toUInt32) 0

/-- The stream of a key of 32 bytes. -/
def ofKey (key : Bytes) : Keystream where
  key := Vector.ofFn fun (i : Fin 8) => littleEndian32 ((key.drop (4 * i.val)).take 4)

/-- The block before the rounds. -/
def start (stream : Keystream) : Block :=
  let key := stream.key
  #v[0x61707865, 0x3320646e, 0x79622d32, 0x6b206574, key[0], key[1], key[2], key[3], key[4],
    key[5], key[6], key[7], stream.counter.toUInt32, (stream.counter >>> 32).toUInt32, 0, 0]

/-- The next word. -/
def next32 (stream : Keystream) : UInt32 × Keystream :=
  match stream.left with
  | word :: left => (word, { stream with left })
  | [] =>
    let block := stream.start.permute
    (block[0], { stream with counter := stream.counter + 1, left := block.toList.drop 1 })

/-- The next two words as one, the low half first. -/
def next64 (stream : Keystream) : UInt64 × Keystream :=
  let (low, stream) := stream.next32
  let (high, stream) := stream.next32
  (low.toUInt64 ||| (high.toUInt64 <<< 32), stream)

end Keystream

end ThresholdDaemon.Digest
