import ThresholdDaemon.CommandLine.Error
import ThresholdDaemon.CommandLine.Similarity
import ThresholdDaemon.FileSystem.Path

/-!
# Command lines

The arguments are taken one after the other. An option waits for its value, and a value is looked
at once the next argument that needs it settled comes, so an unknown argument is reported before
an invalid value that waits, and a request for help after it. Settings not given on the line take
their values from the environment, and those not given there either keep their defaults.
-/
namespace ThresholdDaemon.CommandLine

/-- A setting that has been named and waits to be settled. -/
structure Waiting where
  /-- The setting. -/
  setting : Setting
  /-- Its value, if it has come. -/
  value : Option Bytes
  deriving DecidableEq, Repr

/-- How far a command line has been taken. -/
structure Scan where
  /-- The settings given so far, in order; that of an invalid value is among them. -/
  used : List Flag := []
  /-- Their values. -/
  given : Given := {}
  /-- What waits to be settled. -/
  waiting : Option Waiting := none
  /-- The place of the socket is taken. -/
  placed : Bool := false
  /-- Only values follow. -/
  valuesOnly : Bool := false

namespace Scan

/-- Give a setting a value. -/
def give (scan : Scan) (setting : Setting) (value : Bytes) : Scan × Option Refusal :=
  if .setting setting ∈ scan.used then
    ({ scan with used := scan.used.erase (.setting setting) }, some (.repeated setting))
  else
    let scan := { scan with used := scan.used ++ [.setting setting] }
    match Utf8.decode value with
    | .error _ => (scan, some .notUtf8)
    | .ok text =>
      let text := String.ofList text
      match scan.given.assign setting text with
      | .ok given => ({ scan with given }, none)
      | .error reason => (scan, some (.invalidValue setting text reason))

/-- Settle what waits. -/
def settle (scan : Scan) : Scan × Option Refusal :=
  match scan.waiting with
  | none => (scan, none)
  | some ⟨setting, value⟩ =>
    let scan := { scan with waiting := none }
    match value with
    | none => (scan, some (.noValue setting))
    | some value => scan.give setting value

/-- Settle what waits, which must be possible. -/
def settled (scan : Scan) : Except Refusal Scan :=
  match scan.settle with
  | (scan, none) => .ok scan
  | (_, some refusal) => .error refusal

/-- The settings given once what waits is settled, whether it can be or not. -/
def usedAfterAll (scan : Scan) : List Flag := scan.settle.1.used

/-- An argument as it is shown. -/
def shown (argument : Bytes) : String := String.ofList (Utf8.lossy argument)

/-- An option that is not known. -/
def unknownOption (scan : Scan) (name : Bytes) : Refusal :=
  let name := shown name
  let used := scan.usedAfterAll
  match mostSimilar? name Flag.options with
  | none => .unknownArgument ("--" ++ name) .asValue used
  | some other =>
    let used := match Flag.ofOption? other with
      | some flag => if flag ∈ used then used else used ++ [flag]
      | none => used
    .unknownArgument ("--" ++ name) (.similar other) used

/-- An option, with the value that is attached to it. -/
def takeOption (scan : Scan) (name : Bytes) (value : Option Bytes) : Except Refusal Scan :=
  match (Utf8.decode name).toOption.bind fun name => Flag.ofOption? (String.ofList name) with
  | none => .error (scan.unknownOption name)
  | some (.setting named) => do
    let scan ← scan.settled
    match value with
    | none => .ok { scan with waiting := some ⟨named, none⟩ }
    | some value =>
      match scan.give named value with
      | (scan, none) => .ok scan
      | (_, some refusal) => .error refusal
  | some flag =>
    match value with
    | some value =>
      .error (.unwantedValue flag (shown value) (!scan.used.isEmpty))
    | none => do
      let _ ← scan.settled
      .error (if flag = .help then .help else .version)

/-- Short options in one argument: help and version are all there are. What is no text is shown
up to the end of the argument. -/
def takeShort (scan : Scan) (names : Bytes) : Refusal :=
  let asked (refusal : Refusal) : Refusal :=
    match scan.settled with
    | .ok _ => refusal
    | .error earlier => earlier
  match Utf8.decode names, Utf8.lossy names with
  | .error ⟨0, _⟩, _ => .unknownArgument ("-" ++ shown names) .asValue []
  | _, 'h' :: _ => asked .help
  | _, 'V' :: _ => asked .version
  | _, text => .unknownArgument (String.ofList ('-' :: text.take 1)) .asValue []

/-- A value in its place: the first is the socket, and there is no place for another. -/
def takePlaced (scan : Scan) (value : Bytes) : Except Refusal Scan :=
  if scan.placed then .error (.unknownArgument (shown value) .nothing [])
  else do
    let scan ← scan.settled
    .ok { scan with waiting := some ⟨.socket, some value⟩, placed := true }

/-- A value: of the option that waits for one, or in its place. -/
def takeValue (scan : Scan) (value : Bytes) : Except Refusal Scan :=
  match scan.waiting with
  | some ⟨setting, none⟩ => .ok { scan with waiting := some ⟨setting, some value⟩ }
  | _ => scan.takePlaced value

/-- The hyphen that options start with. -/
def hyphen : UInt8 := 0x2D

/-- The sign between an option and its value. -/
def equalsSign : UInt8 := 0x3D

/-- An option and the value attached to it, behind the hyphens. -/
def splitOption (text : Bytes) : Bytes × Option Bytes :=
  match text.dropWhile (· ≠ equalsSign) with
  | [] => (text, none)
  | _ :: value => (text.takeWhile (· ≠ equalsSign), some value)

/-- Take one argument. -/
def take (scan : Scan) (argument : Bytes) : Except Refusal Scan :=
  if scan.valuesOnly then scan.takePlaced argument
  else
    match argument with
    | [first, second] =>
      if first = hyphen ∧ second = hyphen then .ok { scan with valuesOnly := true }
      else if first = hyphen then .error (scan.takeShort [second])
      else scan.takeValue argument
    | first :: second :: rest =>
      if first = hyphen ∧ second = hyphen then
        let (name, value) := splitOption rest
        scan.takeOption name value
      else if first = hyphen then .error (scan.takeShort (second :: rest))
      else scan.takeValue argument
    | _ => scan.takeValue argument

/-- Take the values of settings from the environment unless they have been given. -/
def takeEnvironment (scan : Scan) (environment : Environment) : Except Refusal Scan :=
  Setting.all.foldlM (fun scan setting =>
    if .setting setting ∈ scan.used then .ok scan
    else
      match environment setting with
      | none => .ok scan
      | some value =>
        match scan.give setting value with
        | (scan, none) => .ok scan
        | (_, some refusal) => .error refusal) scan

/-- The configuration of all that has been taken. -/
def finish (scan : Scan) : Except Refusal Config :=
  match scan.given.toConfig? with
  | some config => .ok config
  | none => .error (.missingSocket (scan.used ++ [.setting .socket]))

end Scan

/-- The configuration of the arguments behind the program name and of the environment. -/
def readArguments (arguments : List Bytes) (environment : Environment) : Except Refusal Config := do
  let scan ← arguments.foldlM Scan.take {}
  let scan ← scan.settled
  let scan ← scan.takeEnvironment environment
  scan.finish

/-- The name of the program in its messages. -/
def nameOf (program : Bytes) : String :=
  match FileSystem.byteMarks.fileName? program with
  | none => programName
  | some name =>
    match Utf8.decode name with
    | .ok name => String.ofList name
    | .error _ => programName

/-- The configuration of a command line, the program name included, and of the environment. -/
def load (line : List Bytes) (environment : Environment) : Except UsageError Config :=
  (readArguments (line.drop 1) environment).mapError fun refusal =>
    { refusal, program := nameOf (line.headD []), environment }

end ThresholdDaemon.CommandLine
