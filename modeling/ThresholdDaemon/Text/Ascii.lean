/-!
# Letters without case

Names that are read in any case are compared in lower case, which concerns the ASCII letters only.
-/
namespace ThresholdDaemon.Text

/-- An ASCII letter in lower case; any other character as it is. -/
def lowerAscii (c : Char) : Char :=
  if 'A' ≤ c ∧ c ≤ 'Z' then Char.ofNat (c.toNat + 32) else c

end ThresholdDaemon.Text
