import ThresholdDaemon.CommandLine.Usage

/-!
# Refused command lines

A command line ends the start of the daemon when it asks for help or the version, or when
something in it is wrong. The text says what is wrong, how the line should look, and where to find
help.
-/
namespace ThresholdDaemon.CommandLine

/-- What is suggested in place of an argument that is not known. -/
inductive Suggestion where
  /-- Nothing. -/
  | nothing
  /-- Another option. -/
  | similar (option : String)
  /-- To mark it as a value. -/
  | asValue
  deriving DecidableEq, Repr

/-- Why a command line gives no configuration. -/
inductive Refusal where
  /-- Help was asked for. -/
  | help
  /-- The version was asked for. -/
  | version
  /-- There is no socket. -/
  | missingSocket (used : List Flag)
  /-- An argument is not known. -/
  | unknownArgument (argument : String) (suggestion : Suggestion) (used : List Flag)
  /-- A value is not valid for its setting. -/
  | invalidValue (setting : Setting) (value reason : String)
  /-- An option has no value. -/
  | noValue (setting : Setting)
  /-- An option that takes no value has one; settings may have been given in front of it. -/
  | unwantedValue (flag : Flag) (value : String) (anyGiven : Bool)
  /-- A setting is given twice. -/
  | repeated (setting : Setting)
  /-- A value is not text. -/
  | notUtf8
  deriving DecidableEq, Repr

namespace Refusal

/-- The program was asked for a text and nothing is wrong. -/
def isInformational : Refusal → Bool
  | help | version => true
  | _ => false

/-- What is wrong, and how the line should look if it matters. -/
def description (program : String) : Refusal → String × Option String
  | help | version => ("", none)
  | missingSocket used =>
    ("the following required arguments were not provided:\n  " ++ Setting.socket.usage,
      some (usageLine program used))
  | unknownArgument argument suggestion used =>
    let tip := match suggestion with
      | .nothing => ""
      | .similar option => "\n\n  tip: a similar argument exists: '--" ++ option ++ "'"
      | .asValue =>
        "\n\n  tip: to pass '" ++ argument ++ "' as a value, use '-- " ++ argument ++ "'"
    ("unexpected argument '" ++ argument ++ "' found" ++ tip, some (usageLine program used))
  | invalidValue setting value reason =>
    ("invalid value '" ++ value ++ "' for '" ++ setting.usage ++ "': " ++ reason, none)
  | noValue setting =>
    ("a value is required for '" ++ setting.usage ++ "' but none was supplied", none)
  | unwantedValue flag value anyGiven =>
    ("unexpected value '" ++ value ++ "' for '" ++ flag.usage ++
      "' found; no more were expected", some (flagUsageLine program flag anyGiven))
  | repeated setting =>
    ("the argument '" ++ setting.usage ++ "' cannot be used multiple times",
      some (usageLine program []))
  | notUtf8 =>
    ("invalid UTF-8 was detected in one or more arguments", some (usageLine program []))

end Refusal

/-- A refused command line, with what its text depends on. -/
structure UsageError where
  /-- Why it is refused. -/
  refusal : Refusal
  /-- The name that the program was started under. -/
  program : String
  /-- The environment variables. -/
  environment : Environment

/-- The text of a refused command line. -/
def UsageError.message (error : UsageError) : String :=
  match error.refusal with
  | .help => helpText error.program error.environment
  | .version => versionText
  | refusal =>
    let (what, usage) := refusal.description error.program
    let usage := match usage with
      | some line => "\n\n" ++ line
      | none => ""
    "error: " ++ what ++ usage ++ "\n\nFor more information, try '--help'.\n"

end ThresholdDaemon.CommandLine
