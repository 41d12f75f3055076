import ThresholdDaemon.Json.Print
import ThresholdDaemon.Log.Record
import ThresholdDaemon.Text.Quoted

/-!
# Log lines

A record is written as an object, whose members are the fields of the event beside what else is
known of it, or as a compact text. In the compact form severities take five places and the names
of threads as many as the longest so far, both set to the right; texts are quoted, and what is
shown in its own words is not.
-/
namespace ThresholdDaemon

/-- The value of a field in a document. -/
def FieldValue.toJson : FieldValue → Json.Value
  | text value | shown value => .text value
  | count value => Json.Value.ofNat value
  | truth value => .bool value

/-- The value of a field in a compact text. -/
def FieldValue.compact : FieldValue → String
  | text value => Text.quote value
  | shown value => value
  | count value => toString value
  | truth value => if value then "true" else "false"

namespace LogRecord

/-- The record as an object. -/
def toJson (record : LogRecord) : Json.Value :=
  let event := record.event
  .object (Json.Members.ofList
    ([("level", .text event.severity.name), ("message", .text event.message),
        ("target", .text event.target), ("threadName", .text record.thread.name)] ++
      event.fields.map fun (name, value) => (name, value.toJson)))

/-- A text set to the right in so many places. -/
def toRight (places : Nat) (text : String) : String :=
  String.ofList (List.replicate (places - text.length) ' ') ++ text

/-- The record as a compact text, with so many places for the name of the thread. -/
def compact (places : Nat) (record : LogRecord) : String :=
  let event := record.event
  " ".intercalate
    ([toRight 5 event.severity.name, toRight places record.thread.name, event.target ++ ":",
        event.message] ++
      event.fields.map fun (name, value) => name ++ "=" ++ value.compact)

/-- Records as compact texts, when the longest name of a thread so far takes `places`. -/
def compactFrom (places : Nat) : List LogRecord → List String
  | [] => []
  | record :: rest =>
    let places := max places record.thread.name.length
    record.compact places :: compactFrom places rest

/-- Records as compact texts. -/
def compactLines (records : List LogRecord) : List String := compactFrom 0 records

end LogRecord

end ThresholdDaemon
