import ThresholdDaemon.Config.Setting

/-!
# Usage and help

A usage line names the program, the options that have been used or the fact that there are
options, and the socket. The help shows the usage, and for each setting its meaning, its
environment variable with its value, and its default.
-/
namespace ThresholdDaemon.CommandLine

/-- What can stand on the command line. -/
inductive Flag where
  /-- A setting. -/
  | setting (named : Setting)
  /-- A request for help. -/
  | help
  /-- A request for the version. -/
  | version
  deriving DecidableEq, Repr

namespace Flag

/-- The long name. -/
def option? : Flag → Option String
  | .setting found => found.option?
  | .help => some "help"
  | .version => some "version"

/-- The form in usage texts. -/
def usage : Flag → String
  | .setting found => found.usage
  | .help => "--help"
  | .version => "--version"

/-- What can stand on the command line, in order. -/
def all : List Flag := Setting.all.map setting ++ [help, version]

/-- The flag with a long name. -/
def ofOption? (name : String) : Option Flag := all.find? fun flag => flag.option? = some name

/-- The long names. -/
def options : List String := all.filterMap option?

end Flag

/-- The environment variables of the settings. -/
abbrev Environment := Setting → Option Bytes

/-- The name of the program unless it is started under another. -/
def programName : String := "acpd"

/-- The version of the program. -/
def version : String := "0.1.0"

/-- A usage line. Once something has been used, it is shown in place of the hint at options. -/
def usageLine (program : String) (used : List Flag) : String :=
  let shown :=
    if used.isEmpty then ["[OPTIONS]"]
    else (used.filter (· ≠ .setting .socket)).map Flag.usage
  "Usage: " ++ " ".intercalate (program :: shown ++ [Setting.socket.usage])

/-- The usage line of a request that was given a value. Once settings have been given, all of them
are shown as a choice. -/
def flagUsageLine (program : String) (flag : Flag) (anyGiven : Bool) : String :=
  let choice := (Setting.all.map fun setting =>
    if setting = .socket then setting.valueName else setting.usage).intersperse "|"
  let shown :=
    if anyGiven then "<" ++ String.join choice ++ ">" else Setting.socket.usage
  "Usage: " ++ program ++ " " ++ flag.usage ++ " " ++ shown

/-- What the help says about the environment variable of a setting. -/
def environmentNote (environment : Environment) (setting : Setting) : String :=
  let value := String.ofList (Utf8.lossy ((environment setting).getD []))
  "[env: " ++ setting.environmentName ++ "=" ++ value ++ "]"

/-- All that the help says about a setting, with further lines indented. -/
def settingHelp (environment : Environment) (indent : Nat) (setting : Setting) : String :=
  let defaultNote := match setting.defaultText? with
    | some text => " [default: " ++ text ++ "]"
    | none => ""
  let whole := setting.help ++ " " ++ environmentNote environment setting ++ defaultNote
  String.ofList (whole.toList.flatMap fun c =>
    if c = '\n' then c :: List.replicate indent ' ' else [c])

/-- The help text. -/
def helpText (program : String) (environment : Environment) : String :=
  let blanks (n : Nat) : String := String.ofList (List.replicate n ' ')
  let option (setting : Setting) : String :=
    blanks 6 ++ setting.usage ++ "\n" ++ blanks 10 ++ settingHelp environment 10 setting ++ "\n"
  "Threshold-signature RPC daemon on a local Unix domain socket\n\n" ++
    usageLine program [] ++ "\n\nArguments:\n  " ++ Setting.socket.usage ++ "  " ++
    settingHelp environment 12 .socket ++ "\n\nOptions:\n" ++
    String.join ((Setting.all.filter (·.option?.isSome)).map option) ++
    "  -h, --help\n" ++ blanks 10 ++ "Print help\n" ++
    "  -V, --version\n" ++ blanks 10 ++ "Print version\n"

/-- The version text. -/
def versionText : String := programName ++ " " ++ version ++ "\n"

end ThresholdDaemon.CommandLine
