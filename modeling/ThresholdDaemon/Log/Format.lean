import ThresholdDaemon.Json.Print
import ThresholdDaemon.Json.Typed
import ThresholdDaemon.Text.Ascii

/-!
# Forms of the log

Log lines are written as objects or as compact text. A form is named on the command line in any
case, and in a document in lower case only, as a text or as an object whose one member is null.
-/
namespace ThresholdDaemon

/-- How log lines are written. -/
inductive LogFormat where
  /-- One object a line. -/
  | json
  /-- One compact text a line. -/
  | compact
  deriving DecidableEq, Repr, Inhabited

namespace LogFormat

/-- The name of a form. -/
def name : LogFormat → String
  | json => "json"
  | compact => "compact"

/-- The forms. -/
def all : List LogFormat := [json, compact]

/-- The form that is used when none is named. -/
def default : LogFormat := json

/-- The text of the error when no form has a name. -/
def unknownName : String := "Matching variant not found"

/-- The form that a text names in any case. -/
def ofText? (text : String) : Option LogFormat :=
  all.find? fun format => format.name.toList = text.toList.map Text.lowerAscii

/-- The form that a text names exactly. -/
def ofName? (text : String) : Option LogFormat := all.find? fun format => format.name = text

open Json in
/-- The form named by a text of a document, which comes next. -/
def readName : Reader LogFormat := do
  match ← Reader.nextAfterBlanks? with
  | none => Reader.fail .endInValue
  | some '"' =>
    Reader.advance
    let name ← Literal.read
    match ofName? name with
    | some format => pure format
    | none => Reader.fail (.unknownVariant name "`json` or `compact`")
  | some _ => Reader.mistyped "variant identifier"

open Json in
/-- A null value. -/
def readUnit : Reader Unit := do
  match ← Reader.nextAfterBlanks? with
  | none => Reader.fail .endInValue
  | some 'n' => Reader.advance; Reader.word ['u', 'l', 'l']
  | some _ => Reader.mistyped "unit"

open Json in
/-- A form in a document. -/
def read (depth : Nat) : Reader LogFormat := do
  match ← Reader.nextAfterBlanks? with
  | none => Reader.fail .endInValue
  | some '"' => readName
  | some '\x7b' =>
    Reader.deeper depth fun _ => do
      Reader.advance
      match ← Reader.nextAfterBlanks? with
      | none => Reader.fail .endInObject
      | some c => unless c = '"' do Reader.failNext .keyMustBeString
      let format ← readName
      Reader.colon
      readUnit
      match ← Reader.nextAfterBlanks? with
      | none => Reader.fail .endInObject
      | some c => if c = '\x7d' then Reader.advance; pure format else Reader.fail .expectedValue
  | some _ => Reader.failNext .expectedValue

/-- A form as a text of a document. -/
def print (format : LogFormat) : List Char := Json.Literal.print format.name

end LogFormat

end ThresholdDaemon
