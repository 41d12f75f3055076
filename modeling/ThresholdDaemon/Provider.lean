import ThresholdDaemon.Json.Fault
import ThresholdDaemon.Payload
import ThresholdDaemon.Text.Utf8

/-!
# Signature providers

A provider does the mathematics of a threshold signature scheme: it deals keys, signs with a key
share and verifies signature shares. Its answers may depend on a state of its own, such as the
coins it draws. A call may also panic, which its caller has to survive. A recording provider
keeps a list of the calls made of another.
-/
namespace ThresholdDaemon

/-- The kinds of material that messages name. -/
inductive MaterialKind where
  /-- A public key. -/
  | groupKey
  /-- A secret share. -/
  | keyShare
  /-- A share of a signature. -/
  | signatureShare
  deriving DecidableEq, Repr

/-- The name of a kind of material. -/
def MaterialKind.name : MaterialKind → String
  | groupKey => "group key"
  | keyShare => "key share"
  | signatureShare => "signature share"

/-- Why a provider refuses a call. -/
inductive ProviderError where
  /-- The key size is not offered. -/
  | unsupportedKeySize (keySize : UInt32)
  /-- The parameters describe no threshold scheme. -/
  | invalidThreshold (k l : UInt64)
  /-- Material cannot be read. -/
  | malformedMaterial (what : MaterialKind) (fault : Json.Fault)
  /-- Material cannot be written. -/
  | encodeMaterial (what : MaterialKind) (fault : Json.Fault)
  /-- A share has a number beyond those dealt. -/
  | shareOutOfRange (id l : UInt64)
  /-- The group key needs another number of shares than it says. -/
  | thresholdMismatch (declared actual : UInt64)
  /-- Two shares have one number. -/
  | duplicateShare (id : UInt64)
  /-- The shares cannot be combined. -/
  | combine (reason : String)
  deriving DecidableEq, Repr

/-- The text of an error. -/
def ProviderError.message : ProviderError → String
  | unsupportedKeySize keySize => "unsupported key size " ++ toString keySize.toNat
  | invalidThreshold k l =>
    "invalid threshold: k = " ++ toString k.toNat ++ ", l = " ++ toString l.toNat
  | malformedMaterial what fault => "malformed " ++ what.name ++ ": " ++ fault.message
  | encodeMaterial what fault => "failed to encode " ++ what.name ++ ": " ++ fault.message
  | shareOutOfRange id l =>
    "share id " ++ toString id.toNat ++ " is outside the dealt range 0.." ++ toString l.toNat
  | thresholdMismatch declared actual =>
    "group key declares k = " ++ toString declared.toNat ++ " but its material requires " ++
      toString actual.toNat ++ " shares"
  | duplicateShare id => "signature share " ++ toString id.toNat ++ " supplied more than once"
  | combine reason => "failed to combine signature shares: " ++ reason

/-- How a call of a provider ends. -/
inductive Outcome (α : Type) where
  /-- With a value. -/
  | returns (value : α)
  /-- With an error. -/
  | refuses (error : ProviderError)
  /-- With a panic. -/
  | panics (text : String)
  deriving Repr

/-- A threshold signature scheme with a state `σ`. -/
structure Provider (σ : Type) where
  /-- Deal a group key and `l` key shares of which `k` sign. -/
  deal : (keySize : UInt32) → (l k : UInt64) → StateM σ (Outcome DealtKeys)
  /-- Sign a message with a key share. -/
  sign : KeyShare → Bytes → StateM σ (Outcome SignatureShare)
  /-- Combine signature shares of a message and verify them against a group key. -/
  verify : GroupKey → List SignatureShare → Bytes → StateM σ (Outcome Bool)
  /-- The most bytes that the material of a signature share takes as text. -/
  signatureLengthBound : Nat

/-- A call made of a provider. -/
inductive ProviderCall where
  /-- Keys were to be dealt. -/
  | deal (keySize : UInt32) (l k : UInt64)
  /-- A message was to be signed. -/
  | sign (share : KeyShare) (msg : Bytes)
  /-- Shares were to be verified. -/
  | verify (groupKey : GroupKey) (shares : List SignatureShare) (msg : Bytes)
  deriving Repr

namespace Provider

variable {σ α : Type}

/-- An act on a part of a larger state. -/
def actWithin {τ : Type} (part : τ → σ) (put : σ → τ → τ) (act : StateM σ α) : StateM τ α :=
  fun whole =>
    let (value, state) := act (part whole)
    (value, put state whole)

/-- A provider whose state is a part of a larger one. -/
def within {τ : Type} (provider : Provider σ) (part : τ → σ) (put : σ → τ → τ) : Provider τ where
  deal keySize l k := actWithin part put (provider.deal keySize l k)
  sign share msg := actWithin part put (provider.sign share msg)
  verify groupKey shares msg := actWithin part put (provider.verify groupKey shares msg)
  signatureLengthBound := provider.signatureLengthBound

/-- Note a call before it is made. -/
def noted (call : ProviderCall) (answer : StateM σ α) : StateM (List ProviderCall × σ) α :=
  fun (calls, state) =>
    let (value, state) := answer state
    (value, (calls ++ [call], state))

/-- A provider that also lists the calls made of it, in order. -/
def recording (provider : Provider σ) : Provider (List ProviderCall × σ) where
  deal keySize l k := noted (.deal keySize l k) (provider.deal keySize l k)
  sign share msg := noted (.sign share msg) (provider.sign share msg)
  verify groupKey shares msg :=
    noted (.verify groupKey shares msg) (provider.verify groupKey shares msg)
  signatureLengthBound := provider.signatureLengthBound

end Provider

end ThresholdDaemon
