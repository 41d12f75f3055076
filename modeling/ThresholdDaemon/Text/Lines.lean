import ThresholdDaemon.FileSystem.Path

/-!
# Lines

The lines of a text, whose last line may or may not be ended.
-/
namespace ThresholdDaemon.Text

/-- The lines of a text. -/
def lines (text : String) : List String :=
  let parts := FileSystem.segments '\n' text.toList
  let parts := if parts.getLast? = some [] then parts.dropLast else parts
  parts.map String.ofList

end ThresholdDaemon.Text
