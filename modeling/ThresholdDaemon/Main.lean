import ThresholdDaemon.Launch.Exit
import ThresholdDaemon.Launch.Host
import ThresholdDaemon.Log.Line
import ThresholdDaemon.Threshold.Coins

/-!
# The program

The program is started for one connection, which it finds on its standard streams, by whoever
listens at the socket in its place. It serves the connection to its end, which takes the place of
a signal, and logs to the error output.
-/
namespace ThresholdDaemon.Program

/-- The program while it runs. -/
structure State where
  /-- The log, once it is set up. -/
  log : Option ProcessLog := none
  /-- The places that the longest name of a thread so far takes. -/
  places : Nat := 0
  /-- The limit on frames. -/
  frameLimit : Nat := FrameBuffer.defaultLimit
  /-- The counters. -/
  counters : Counters := {}
  /-- The session has unwound. -/
  unwound : Bool := false
  /-- The coins that keys are dealt from. -/
  coins : Threshold.Coins

/-- What the program does, unless it panics. -/
abbrev Action := ExceptT String (StateT State IO)

/-- The line of a record, which passes the filter of the log. -/
def line (log : ProcessLog) (places : Nat) (record : LogRecord) : String :=
  match log.format with
  | .json => String.ofList (Json.Value.print record.toJson)
  | .compact => record.compact places

/-- Write records to the log. -/
def write (records : List LogRecord) : Action Unit := do
  let errors ← IO.getStderr
  for record in records do
    let state ← get
    match state.log with
    | none => pure ()
    | some log =>
      if log.filter.passes record.event then
        let places := max state.places record.thread.name.length
        set { state with places }
        errors.putStrLn (line log places record)

/-- The dispatcher of the connection. -/
def dispatcher (frameLimit : Nat) : Dispatcher Threshold.Coins :=
  ⟨Threshold.curveProvider, frameLimit⟩

/-- Let a session go on until it waits. -/
def go (session : Session) : Action Session := do
  let state ← get
  let ((session, effect), coins) :=
    session.settle (dispatcher state.frameLimit) false state.coins
  set { state with
    coins, counters := state.counters.recordAll effect.counted
    unwound := (WorkerPool.workerOf session).isUnwound }
  write ((Thread.worker 0).records effect.log)
  let output ← IO.getStdout
  output.write ⟨effect.sent.toArray⟩
  output.flush
  return session

/-- Serve the connection until its session is over. -/
partial def serve (session : Session) : Action Unit := do
  let session ← go session
  if session.isOver then return
  let found ← (← IO.getStdin).read (USize.ofNat session.buffer.capacity)
  let connection := session.connection
  if found.isEmpty then serve { session with connection := connection.finish }
  else serve { session with connection := connection.push found.toList }

/-- The daemon on the standard streams. -/
def daemon (arguments : List String) (environment : CommandLine.Environment) : Daemon Action where
  load :=
    pure (CommandLine.load ((CommandLine.programName :: arguments).map Bytes.ofString) environment)
  initialise config := do
    let telemetry ← Daemon.setUp (Telemetry.initialise none config)
    if let .ok telemetry := telemetry then
      modify fun state => { state with log := some telemetry.log }
    return telemetry
  bind settings := do
    modify fun state => { state with frameLimit := settings.maxFrameBytes.toNat }
    return .ok ()
  start := return .ok ()
  wait := do
    serve (Session.accept (← get).frameLimit { mayWrite := true })
    return .ok ()
  stop := return if (← get).unwound then .error (.listener .threadPanic) else .ok ()
  counters := return (← get).counters
  note event := write (Thread.main.records [event])
  report health := write (Thread.main.records [health.event])

/-- The environment variables of the settings. -/
def readEnvironment : IO CommandLine.Environment := do
  let mut found : List (Setting × Bytes) := []
  for setting in Setting.all do
    if let some value ← IO.getEnv setting.environmentName then
      found := (setting, Bytes.ofString value) :: found
  let values := found
  return fun setting => values.lookup setting

/-- Run the program with some arguments; the answer is its code. -/
def run (arguments : List String) : IO UInt32 := do
  let environment ← readEnvironment
  let seed ← IO.getRandomBytes 32
  let state : State := { coins := Threshold.coinsOf seed.toList }
  let (result, _) ← (daemon arguments environment).launch.run.run state
  let exit := Exit.ofLaunch result
  (← IO.getStdout).putStr exit.output
  (← IO.getStderr).putStr exit.errors
  return exit.code.toUInt32

end ThresholdDaemon.Program

/-- The daemon. -/
def main (arguments : List String) : IO UInt32 := ThresholdDaemon.Program.run arguments
