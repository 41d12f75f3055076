/-!
# Words and allocations

Sizes are machine words, and one allocation has at most as many bytes as a signed word counts.
Asking for more is a panic.
-/
namespace ThresholdDaemon

/-- The number of machine words. -/
abbrev wordCount : Nat := 18446744073709551616

/-- Half the number of machine words: as many signed ones are negative. -/
abbrev halfWordCount : Nat := 9223372036854775808

/-- The largest size of anything that is counted by a machine word. -/
def wordMax : Nat := wordCount - 1

/-- The largest number of bytes one allocation may ask for. -/
def allocationMax : Nat := halfWordCount - 1

/-- The text of the panic when an allocation asks for more. -/
def allocationPanic : String := "capacity overflow"

end ThresholdDaemon
