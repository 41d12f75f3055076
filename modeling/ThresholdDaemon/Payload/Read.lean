import ThresholdDaemon.Json.Convert
import ThresholdDaemon.Payload

/-!
# Payloads read from text

Each payload is read as a record. A sign request is an object only: its message is read where it
stands, every other member is read as a value of any kind, and the key share is taken from those
values at the end.
-/
namespace ThresholdDaemon

open Json

/-- A field that must be there. -/
def required {α : Type} (name : String) (field : Option α) : Except Cause α :=
  match field with
  | some value => .ok value
  | none => .error (.missingField name)

namespace GroupKey

/-- The fields gathered of a group key. -/
structure Partial where
  /-- The count of shares that sign. -/
  k : Option UInt64 := none
  /-- The count of shares dealt. -/
  l : Option UInt64 := none
  /-- The size of the key. -/
  keySize : Option UInt32 := none
  /-- The public key. -/
  key : Option Material := none

/-- How a group key is read. -/
def shape : Shape Partial GroupKey where
  name := "GroupKey"
  fields :=
    [⟨"k", (·.k.isSome), fun _ found => do return { found with k := some (← Reader.count) }⟩,
      ⟨"l", (·.l.isSome), fun _ found => do return { found with l := some (← Reader.count) }⟩,
      ⟨"key-size", (·.keySize.isSome), fun _ found => do
        return { found with keySize := some (← Reader.word32) }⟩,
      ⟨"key", (·.key.isSome), fun depth found => do
        return { found with key := some (← Reader.value depth) }⟩]
  start := {}
  finish found := do
    return ⟨← required "k" found.k, ← required "l" found.l, ← required "key-size" found.keySize,
      ← required "key" found.key⟩

end GroupKey

namespace KeyShare

/-- The fields gathered of a key share. -/
structure Partial where
  /-- The number of the player. -/
  id : Option UInt64 := none
  /-- The secret share. -/
  share : Option Material := none

/-- The key share of its fields. -/
def Partial.finish (found : Partial) : Except Cause KeyShare := do
  return ⟨← required "id" found.id, ← required "share" found.share⟩

/-- How a key share is read. -/
def shape : Shape Partial KeyShare where
  name := "KeyShare"
  fields :=
    [⟨"id", (·.id.isSome), fun _ found => do return { found with id := some (← Reader.word64) }⟩,
      ⟨"share", (·.share.isSome), fun depth found => do
        return { found with share := some (← Reader.value depth) }⟩]
  start := {}
  finish := Partial.finish

/-- Gather a key share from one more member of an object. -/
def Partial.gather (found : Partial) : String × Value → Except Cause Partial
  | (key, value) => do
    if key = "id" then
      if found.id.isSome then .error (.duplicateField "id")
      else return { found with id := some (← value.toWord64) }
    else if key = "share" then
      if found.share.isSome then .error (.duplicateField "share")
      else return { found with share := some value }
    else return found

/-- The key share among the members of an object. -/
def ofMembers (members : List (String × Value)) : Except Cause KeyShare := do
  (← members.foldlM Partial.gather {}).finish

end KeyShare

namespace SignatureShare

/-- The fields gathered of a signature share. -/
structure Partial where
  /-- The number of the player. -/
  id : Option UInt64 := none
  /-- The share of the signature. -/
  signature : Option Material := none

/-- How a signature share is read. -/
def shape : Shape Partial SignatureShare where
  name := "SignatureShare"
  fields :=
    [⟨"id", (·.id.isSome), fun _ found => do return { found with id := some (← Reader.word64) }⟩,
      ⟨"signature", (·.signature.isSome), fun depth found => do
        return { found with signature := some (← Reader.value depth) }⟩]
  start := {}
  finish found := do
    return ⟨← required "id" found.id, ← required "signature" found.signature⟩

end SignatureShare

namespace DealtKeys

/-- The fields gathered of dealt keys. -/
structure Partial where
  /-- The public key of the group. -/
  groupKey : Option GroupKey := none
  /-- The key shares. -/
  shares : Option (List KeyShare) := none

/-- How dealt keys are read. -/
def shape : Shape Partial DealtKeys where
  name := "DealResponse"
  fields :=
    [⟨"group-key", (·.groupKey.isSome), fun depth found => do
        return { found with groupKey := some (← GroupKey.shape.read depth) }⟩,
      ⟨"shares", (·.shares.isSome), fun depth found => do
        return { found with shares := some (← Reader.list KeyShare.shape.read depth) }⟩]
  start := {}
  finish found := do
    return ⟨← required "group-key" found.groupKey, ← required "shares" found.shares⟩

end DealtKeys

namespace DealRequest

/-- The fields gathered of a request to deal keys. -/
structure Partial where
  /-- The size of the key. -/
  keySize : Option UInt32 := none
  /-- The count of shares to deal. -/
  l : Option UInt64 := none
  /-- The count of shares that sign. -/
  k : Option UInt64 := none

/-- How a request to deal keys is read. -/
def shape : Shape Partial DealRequest where
  name := "DealRequest"
  fields :=
    [⟨"key-size", (·.keySize.isSome), fun _ found => do
        return { found with keySize := some (← Reader.word32) }⟩,
      ⟨"l", (·.l.isSome), fun _ found => do return { found with l := some (← Reader.count) }⟩,
      ⟨"k", (·.k.isSome), fun _ found => do return { found with k := some (← Reader.count) }⟩]
  start := {}
  finish found := do
    return ⟨← required "key-size" found.keySize, ← required "l" found.l, ← required "k" found.k⟩

end DealRequest

namespace SignRequest

/-- The members gathered of a request to sign. -/
structure Partial where
  /-- The message. -/
  msg : Option String := none
  /-- The other members, the last one first. -/
  others : List (String × Value) := []

/-- One member of a request to sign, its key taken. -/
def member (depth : Nat) (key : String) (found : Partial) : Reader Partial := do
  if key = "msg" then
    if found.msg.isSome then Reader.closeAndFail (.duplicateField "msg")
    else
      Reader.colon
      return { found with msg := some (← Reader.text) }
  else
    Reader.colon
    return { found with others := (key, ← Reader.value depth) :: found.others }

/-- The request of its members. -/
def Partial.finish (found : Partial) : Except Cause SignRequest := do
  let msg ← required "msg" found.msg
  return ⟨← KeyShare.ofMembers found.others.reverse, msg⟩

/-- A request to sign. -/
def read (depth : Nat) : Reader SignRequest := do
  match ← Reader.nextAfterBlanks? with
  | none => Reader.fail .endInValue
  | some '\x7b' =>
    Reader.deeper depth fun depth => do
      let found ← Reader.object (member depth) {}
      match found.finish with
      | .ok request => pure request
      | .error cause => Reader.fail cause
  | some _ => Reader.mistyped "struct SignRequest"

end SignRequest

namespace VerifyRequest

/-- The fields gathered of a request to verify. -/
structure Partial where
  /-- The public key of the group. -/
  groupKey : Option GroupKey := none
  /-- The signature shares. -/
  signatures : Option (List SignatureShare) := none
  /-- The message. -/
  msg : Option String := none

/-- How a request to verify is read. -/
def shape : Shape Partial VerifyRequest where
  name := "VerifyRequest"
  fields :=
    [⟨"group-key", (·.groupKey.isSome), fun depth found => do
        return { found with groupKey := some (← GroupKey.shape.read depth) }⟩,
      ⟨"signatures", (·.signatures.isSome), fun depth found => do
        return { found with signatures := some (← Reader.list SignatureShare.shape.read depth) }⟩,
      ⟨"msg", (·.msg.isSome), fun _ found => do
        return { found with msg := some (← Reader.text) }⟩]
  start := {}
  finish found := do
    return ⟨← required "group-key" found.groupKey, ← required "signatures" found.signatures,
      ← required "msg" found.msg⟩

end VerifyRequest

namespace VerifyResponse

/-- How a verdict is read. -/
def shape : Shape (Option Bool) VerifyResponse where
  name := "VerifyResponse"
  fields := [⟨"valid", (·.isSome), fun _ _ => do return some (← Reader.bool)⟩]
  start := none
  finish found := do return ⟨← required "valid" found⟩

end VerifyResponse

end ThresholdDaemon
