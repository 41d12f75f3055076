import ThresholdDaemon.Launch.Error

/-!
# The end of the program

The program ends with a code and a last text: what was asked for on the command line goes to the
output, and every error to the error output.
-/
namespace ThresholdDaemon

/-- How the program ends. -/
structure Exit where
  /-- The code. -/
  code : UInt8 := 0
  /-- The last text of the output. -/
  output : String := ""
  /-- The last text of the error output. -/
  errors : String := ""
  deriving DecidableEq, Repr

/-- How the program ends when a launch fails. -/
def LaunchError.exit : LaunchError → Exit
  | configuration error =>
    if error.refusal.isInformational then { output := error.message }
    else { code := 2, errors := error.message }
  | error => { code := 1, errors := CommandLine.programName ++ ": " ++ error.message ++ "\n" }

/-- How the program ends after a launch, which may have panicked with a text. -/
def Exit.ofLaunch : Except String (Except LaunchError Unit) → Exit
  | .ok (.ok ()) => {}
  | .ok (.error error) => error.exit
  | .error panic => { code := 101, errors := panic ++ "\n" }

end ThresholdDaemon
