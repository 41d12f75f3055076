import ThresholdDaemon.Json.Value

/-!
# Payloads

What the calls carry. Key and signature material is a value whose layout only the signature
scheme knows; everything else here hands it on as it is.
-/
namespace ThresholdDaemon

/-- Key or signature material. -/
abbrev Material := Json.Value

/-- The public key of a group and the parameters it was dealt with. -/
structure GroupKey where
  /-- How many signature shares make a signature. -/
  k : UInt64
  /-- How many key shares were dealt. -/
  l : UInt64
  /-- The size of the key in bits, as asked for. -/
  keySize : UInt32
  /-- The public key. -/
  key : Material
  deriving Repr, Inhabited

/-- The secret key share of one player. -/
structure KeyShare where
  /-- The number of the player, from zero. -/
  id : UInt64
  /-- The secret share. -/
  share : Material
  deriving Repr, Inhabited

/-- The share of one player of a signature. -/
structure SignatureShare where
  /-- The number of the player. -/
  id : UInt64
  /-- The share of the signature. -/
  signature : Material
  deriving Repr, Inhabited

/-- What a deal gives out. -/
structure DealtKeys where
  /-- The public key of the group. -/
  groupKey : GroupKey
  /-- The key shares of the players. -/
  shares : List KeyShare
  deriving Repr, Inhabited

/-- A request to deal keys. -/
structure DealRequest where
  /-- The size of the key in bits. -/
  keySize : UInt32
  /-- How many key shares to deal. -/
  l : UInt64
  /-- How many signature shares shall make a signature. -/
  k : UInt64
  deriving DecidableEq, Repr

/-- A request to sign a message with one key share. -/
structure SignRequest where
  /-- The key share. -/
  share : KeyShare
  /-- The message. -/
  msg : String
  deriving Repr

/-- A request to verify signature shares. -/
structure VerifyRequest where
  /-- The public key of the group. -/
  groupKey : GroupKey
  /-- The signature shares. -/
  signatures : List SignatureShare
  /-- The message. -/
  msg : String
  deriving Repr

/-- The verdict of a verification. -/
structure VerifyResponse where
  /-- The shares make a signature of the message. -/
  valid : Bool
  deriving DecidableEq, Repr

end ThresholdDaemon
