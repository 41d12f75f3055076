import ThresholdDaemon.Decimal.Count
import ThresholdDaemon.FileSystem.Path
import ThresholdDaemon.Log.Event
import ThresholdDaemon.Log.Pattern
import ThresholdDaemon.Text.Alphanumeric
import ThresholdDaemon.Text.Ascii
import ThresholdDaemon.Text.Blank
import ThresholdDaemon.Text.Quoted
import ThresholdDaemon.Text.Slice
import ThresholdDaemon.Text.Utf8

/-!
# Log filters

A filter is a list of directives between commas. A directive has a target, a span with fields, and
a verbosity, of which all but one may be missing: `info`, `acpd::dispatch=debug`,
`acpd[request\x7bid\x7d]=trace`. The most specific directive that concerns an event decides whether
the event is logged, and what no directive concerns is not logged. The daemon opens no spans, so a
directive that names one, or the value of a field, concerns nothing.
-/
namespace ThresholdDaemon

/-- The finest events that are logged. -/
inductive Verbosity where
  /-- None at all. -/
  | off
  /-- Only errors. -/
  | error
  /-- Warnings too. -/
  | warn
  /-- The usual course too. -/
  | info
  /-- Details too. -/
  | debug
  /-- Everything. -/
  | trace
  deriving DecidableEq, Repr

namespace Verbosity

/-- Every verbosity, each at the place that its number names. -/
def all : List Verbosity := [off, error, warn, info, debug, trace]

/-- The name of a verbosity. -/
def name : Verbosity → String
  | off => "off"
  | error => "error"
  | warn => "warn"
  | info => "info"
  | debug => "debug"
  | trace => "trace"

/-- An event passes. -/
def admits : Verbosity → Severity → Bool
  | off, _ => false
  | error, severity => Severity.error.rank ≤ severity.rank
  | warn, severity => Severity.warn.rank ≤ severity.rank
  | info, severity => Severity.info.rank ≤ severity.rank
  | debug, severity => Severity.debug.rank ≤ severity.rank
  | trace, _ => true

/-- The verbosity that a text names, by its number or in any case by its name; no text is that of
errors. -/
def ofText? (text : List Char) : Option Verbosity :=
  match (countText text).toOption.bind (all[·]?) with
  | some verbosity => some verbosity
  | none =>
    if text.isEmpty then some error
    else all.find? fun verbosity => verbosity.name.toList = text.map Text.lowerAscii

end Verbosity

/-- Why a text is no filter. -/
inductive FilterFault where
  /-- A directive does not have the right form. -/
  | malformed
  /-- A verbosity is not known. -/
  | unknownVerbosity
  /-- The value of a field is asked for by an unsound pattern. -/
  | field (fault : PatternFault)
  /-- A part of the filter ends inside a character. -/
  | split (place : Text.Split)
  deriving DecidableEq, Repr

/-- The text of the fault. -/
def FilterFault.message : FilterFault → String
  | malformed => "invalid filter directive"
  | unknownVerbosity =>
    "error parsing level filter: expected one of \"off\", \"error\", \"warn\", \"info\", " ++
      "\"debug\", \"trace\", or a number 0-5"
  | field fault => "invalid field filter: " ++ fault.message
  | split place => place.message

/-- A field that a directive asks for. -/
structure FieldCondition where
  /-- The name of the field. -/
  name : String
  /-- The value asked for, if one is. -/
  value : Option String
  deriving DecidableEq, Repr

namespace FieldCondition

/-- Digits with at most one point, at least one digit among them, and with an exponent or none. -/
def isDecimal (text : List Char) : Bool :=
  let digits (text : List Char) : Bool := !text.isEmpty && text.all Char.isDigit
  let mantissa := text.takeWhile fun c => c.isDigit || c = '.'
  mantissa.any Char.isDigit && mantissa.count '.' ≤ 1 &&
    match text.drop mantissa.length with
    | [] => true
    | e :: '+' :: exponent | e :: '-' :: exponent => (e = 'e' || e = 'E') && digits exponent
    | e :: exponent => (e = 'e' || e = 'E') && digits exponent

/-- A text is a number: a decimal, an infinity or no number at all, behind a sign or none. -/
def isNumber (text : List Char) : Bool :=
  let unsigned := match text with
    | '+' :: rest | '-' :: rest => rest
    | rest => rest
  isDecimal unsigned ||
    String.ofList (unsigned.map Text.lowerAscii) ∈ ["inf", "infinity", "nan"]

/-- The condition of a text: a name, and a value behind an equals sign. A value that is no number
is a pattern. -/
def ofText (text : List Char) : Except FilterFault FieldCondition :=
  match FileSystem.segments '=' text with
  | name :: value :: _ => do
    unless isNumber value do (Pattern.check value).mapError .field
    return ⟨String.ofList name, some (String.ofList value)⟩
  | _ => .ok ⟨String.ofList text, none⟩

end FieldCondition

/-- A directive of a filter. -/
structure Directive where
  /-- What the targets of its events start with. -/
  target : Option String := none
  /-- The span that its events are in. -/
  span : Option String := none
  /-- The fields that its events have. -/
  fields : List FieldCondition := []
  /-- The finest events that it lets pass. -/
  verbosity : Verbosity := .trace
  deriving DecidableEq, Repr

namespace Directive

/-- Where the text of a directive has got to; a part that is open starts at the given byte. -/
inductive Place where
  /-- In front of everything. -/
  | start
  /-- In a target or a verbosity. -/
  | word (first : Nat)
  /-- In the name of a span. -/
  | span (first : Nat)
  /-- In a field. -/
  | field (first : Nat)
  /-- Behind the fields. -/
  | fields
  /-- Behind the span. -/
  | closed
  /-- In a verbosity behind an equals sign. -/
  | verbosity (first : Nat)
  deriving DecidableEq, Repr

/-- A part of the text of a directive, from one byte up to another. -/
def part (text : List Char) (first last : Nat) : Except FilterFault (List Char) :=
  (Text.slice text first last).mapError .split

/-- A part of the text of a directive, from one byte on. -/
def partFrom (text : List Char) (first : Nat) : Except FilterFault (List Char) :=
  part text first (Text.byteLength text)

/-- A character that a directive can start with, other than the bracket of a span. -/
def opens (c : Char) : Bool := c = '-' || c = ':' || c = '_' || Text.isAlphanumeric c

/-- Take the character of a directive that starts at a byte. -/
def take (text : List Char) (index : Nat) (c : Char) (directive : Directive) :
    Place → Except FilterFault (Directive × Place)
  | .start =>
    if c = '[' then .ok (directive, .span (index + 1))
    else if opens c then .ok (directive, .word index)
    else .error .malformed
  | .word first =>
    if c = '=' ∨ c = '[' then do
      let target := some (String.ofList (← part text first index))
      return ({ directive with target },
        if c = '=' then .verbosity (index + 1) else .span (index + 1))
    else .ok (directive, .word first)
  | .span first =>
    if c = ']' then do
      return ({ directive with span := some (String.ofList (← part text first index)) }, .closed)
    else if c = '\x7b' then do
      let name ← part text first index
      let span := if name.isEmpty then none else some (String.ofList name)
      return ({ directive with span }, .field (index + 1))
    else .ok (directive, .span first)
  | .field first =>
    if c = '\x7d' then do
      let found ← part text first index
      if found.isEmpty then throw .malformed
      let field ← FieldCondition.ofText found
      return ({ directive with fields := directive.fields ++ [field] }, .fields)
    else .ok (directive, .field first)
  | .fields => if c = ']' then .ok (directive, .closed) else .error .malformed
  | .closed => if c = '=' then .ok (directive, .verbosity (index + 1)) else .error .malformed
  | .verbosity first => .ok (directive, .verbosity first)

/-- Take characters of a directive one after the other. -/
def takeAll (text : List Char) : (index : Nat) → List Char → Directive × Place →
    Except FilterFault (Directive × Place)
  | _, [], reached => .ok reached
  | index, c :: rest, (directive, place) => do
    let reached ← take text index c directive place
    takeAll text (index + c.utf8Size) rest reached

/-- End a directive: a lone word is a verbosity if it can be, and else a target whose events all
pass. -/
def finish (text : List Char) (directive : Directive) : Place → Except FilterFault Directive
  | .word first => do
    let found ← partFrom text first
    if found.isEmpty then return directive
    match Verbosity.ofText? found with
    | some verbosity => return { directive with verbosity }
    | none => return { directive with target := some (String.ofList found) }
  | .verbosity first => do
    let found ← partFrom text first
    if found.isEmpty then return directive
    match Verbosity.ofText? found with
    | some verbosity => return { directive with verbosity }
    | none => throw .unknownVerbosity
  | .closed => .ok directive
  | .start | .span _ | .field _ | .fields => .error .malformed

/-- The directive of a text. The text is gone through without the blanks at its ends, but its
parts are cut from it at the same places with them, where a character may be split. -/
def parse (text : List Char) : Except FilterFault Directive := do
  let (directive, place) ← takeAll text 0 (Text.trimBlanks text) ({}, .start)
  finish text directive place

/-- A directive that can concern an event outside every span. -/
def isStatic (directive : Directive) : Bool :=
  directive.span.isNone && directive.fields.all (·.value.isNone)

/-- The order of two directives: longer targets are greater, then more fields, then what comes
later among texts. -/
def order (a b : Directive) : Ordering :=
  let target (directive : Directive) : Option Bytes := directive.target.map Bytes.ofString
  let names (directive : Directive) : List Bytes :=
    directive.fields.map fun field => Bytes.ofString field.name
  (compare ((target a).map List.length) ((target b).map List.length)).then <|
    (compare a.fields.length b.fields.length).then <|
      (compare (target a) (target b)).then (compare (names a) (names b))

/-- A directive concerns an event: the target of the event starts with its own, and the event has
its fields, of which the message is one. -/
def concerns (directive : Directive) (event : LogEvent) : Bool :=
  (match directive.target with
    | none => true
    | some target => target.toList.isPrefixOf event.target.toList) &&
  directive.fields.all fun field =>
    field.name = "message" || event.fields.any fun (name, _) => name = field.name

end Directive

/-- A filter: its directives, the most specific first. -/
structure LogFilter where
  /-- The directives. -/
  directives : List Directive
  deriving DecidableEq, Repr

namespace LogFilter

/-- Put a directive at its place, instead of one that is as specific and concerns the same. -/
def insert (directive : Directive) : List Directive → List Directive
  | [] => [directive]
  | other :: rest =>
    match directive.order other with
    | .gt => directive :: other :: rest
    | .eq => directive :: rest
    | .lt => other :: insert directive rest

/-- The filter of some directives. -/
def ofDirectives (directives : List Directive) : LogFilter where
  directives := (directives.filter Directive.isStatic).foldl (fun all one => insert one all) []

/-- The filter of a text. -/
def parse (text : String) : Except FilterFault LogFilter := do
  let parts := (FileSystem.segments ',' text.toList).filter (· ≠ [])
  let directives ← parts.mapM Directive.parse
  return ofDirectives directives

/-- An event is logged. -/
def passes (filter : LogFilter) (event : LogEvent) : Bool :=
  match filter.directives.find? (·.concerns event) with
  | some directive => directive.verbosity.admits event.severity
  | none => false

end LogFilter

/-- A filter that cannot be used. -/
structure FilterError where
  /-- The text of the filter. -/
  filter : String
  /-- What is wrong with it. -/
  fault : FilterFault
  deriving DecidableEq, Repr

namespace FilterError

/-- The text of the error. -/
def message (error : FilterError) : String :=
  "invalid log filter " ++ Text.quote error.filter ++ ": " ++ error.fault.message

/-- The text of a panic: a filter that would have to be cut inside a character ends the daemon
instead of being refused. -/
def panic? (error : FilterError) : Option String :=
  match error.fault with
  | .split place => some place.message
  | _ => none

end FilterError

/-- The filter of a text, or the error that refuses it. -/
def LogFilter.load (text : String) : Except FilterError LogFilter :=
  (LogFilter.parse text).mapError fun fault => ⟨text, fault⟩

end ThresholdDaemon
