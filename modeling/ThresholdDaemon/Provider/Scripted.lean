import ThresholdDaemon.Provider

/-!
# Scripted providers

A scripted provider plays back outcomes: which one depends on how many calls of the same method
were made before and on the arguments. It does no mathematics.
-/
namespace ThresholdDaemon

/-- How many calls of each method were made. -/
structure CallCounts where
  /-- Calls to deal. -/
  deals : Nat := 0
  /-- Calls to sign. -/
  signs : Nat := 0
  /-- Calls to verify. -/
  verifies : Nat := 0
  deriving DecidableEq, Repr

/-- The outcomes of a scripted provider, by the number of calls before. -/
structure ProviderScript where
  /-- The outcomes of dealing. -/
  deal : Nat → (keySize : UInt32) → (l k : UInt64) → Outcome DealtKeys
  /-- The outcomes of signing. -/
  sign : Nat → KeyShare → Outcome SignatureShare
  /-- The outcomes of verifying. -/
  verify : Nat → Outcome Bool
  /-- The most bytes that the material of a signature share takes as text. -/
  signatureLengthBound : Nat

/-- The provider that plays back a script. -/
def ProviderScript.provider (script : ProviderScript) : Provider CallCounts where
  deal keySize l k := fun counts =>
    (script.deal counts.deals keySize l k, { counts with deals := counts.deals + 1 })
  sign share _ := fun counts =>
    (script.sign counts.signs share, { counts with signs := counts.signs + 1 })
  verify _ _ _ := fun counts =>
    (script.verify counts.verifies, { counts with verifies := counts.verifies + 1 })
  signatureLengthBound := script.signatureLengthBound

/-- A part of a list that goes on with its last item. -/
def lastRepeats {α : Type} (items : List α) (n : Nat) : Option α :=
  match items[n]? with
  | some item => some item
  | none => items.getLast?

end ThresholdDaemon
