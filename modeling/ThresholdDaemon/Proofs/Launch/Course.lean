import ThresholdDaemon.Launch
import ThresholdDaemon.Proofs.Server.Running

/-!
# Courses of a launch

How a launch goes is up to its surroundings: what the configuration and the log come to, whether the
server can be bound and its workers started, what its clients and its workers do until the signal
comes and after it, and whether the signal can be waited for at all. A course tells all that. Each
report of the daemon is kept with what there is at that moment.
-/
namespace ThresholdDaemon

variable {σ : Type}

/-- What there is of a daemon at one moment. -/
structure Stand where
  /-- The files. -/
  files : FileSystem
  /-- The server, once it is bound and until its workers are started. -/
  bound : Option BoundServer := none
  /-- The server, once its workers have been started. -/
  running : Option RunningServer := none

/-- The counters of what there is. -/
def Stand.counters (stand : Stand) : Counters := stand.running.elim {} (·.counters)

/-- A daemon and what it has reported. -/
structure Scene where
  /-- What there is now. -/
  now : Stand
  /-- The reports, each with what there was then. -/
  reports : List (HealthReport × Stand) := []

/-- One more report. -/
def Scene.report (scene : Scene) (health : HealthReport) : Scene :=
  { scene with reports := scene.reports ++ [(health, scene.now)] }

/-- What clients and workers do by themselves: nobody but the daemon asks for a shutdown. -/
abbrev FreeAct (σ : Type) := { act : PoolAct σ // act ≠ .shutdown }

/-- How a launch goes. -/
structure Course (σ : Type) where
  /-- What loading the configuration comes to. -/
  loaded : Except CommandLine.UsageError Config
  /-- What setting up the log comes to. -/
  initialised : Config → Except FilterError Telemetry
  /-- Why the server cannot be bound, if the files are not the reason. -/
  refusal : Option ServerError := none
  /-- What keeps the threads of the workers from being spawned. -/
  faults : SpawnFaults := fun _ => none
  /-- The provider of the server. -/
  provider : Provider σ
  /-- What happens from the start of the first worker until the daemon reports that it is ready, or
  until it gives the server up. -/
  starting : List (FreeAct σ) := []
  /-- What happens while the daemon waits for the signal. -/
  serving : List (FreeAct σ) := []
  /-- What waiting for the signal comes to. -/
  waited : Except ShutdownError Unit := .ok ()
  /-- What happens once the daemon has asked its workers to end. -/
  closing : List (PoolAct σ) := []
  /-- The state of the provider when the workers go on to their ends. -/
  state : σ

namespace Stand

/-- Something happens to the server. -/
def undergo (provider : Provider σ) (stand : Stand) (act : PoolAct σ) : Stand :=
  match stand.running with
  | none => stand
  | some server =>
    let after := server.undergo provider stand.files act
    { stand with files := after.2, running := some after.1 }

/-- Several things happen to the server in order. -/
def undergoAll (provider : Provider σ) (stand : Stand) (acts : List (PoolAct σ)) : Stand :=
  acts.foldl (undergo provider) stand

end Stand

namespace Course

/-- The server is bound. -/
def bind (course : Course σ) (settings : ServerSettings) (stand : Stand) :
    Except ServerError Unit × Stand :=
  match course.refusal with
  | some error => (.error error, stand)
  | none =>
    let (files, outcome) := BoundServer.bind settings stand.files
    match outcome.result with
    | .ok server => (.ok (), { stand with files, bound := some server })
    | .error error => (.error error, { stand with files })

/-- What there is of a server of which only the first workers could be started. They may have done
something before they are asked to end. -/
def abandon (course : Course σ) (server : BoundServer) (count : Nat) (stand : Stand) : Stand :=
  let begun := server.withWorkers count
  let pool := (course.starting.map (·.1)).foldl
    (WorkerPool.undergo (begun.dispatcher course.provider)) begun.pool
  let after := (({ begun with pool }.abandon course.provider stand.files).run course.state).1
  { files := after.1, running := some after.2.1 }

/-- The workers are started; if that fails the server goes away. -/
def start (course : Course σ) (stand : Stand) : Except ServerError Unit × Stand :=
  match stand.bound with
  | none => (.ok (), stand)
  | some server =>
    match server.unspawned? course.faults with
    | none =>
      (.ok (), Stand.undergoAll course.provider
        { stand with bound := none, running := some server.running } (course.starting.map (·.1)))
    | some (index, error) =>
      (.error (.listener (.spawnWorker index error)), course.abandon server index stand)

/-- What there is once the signal has come. -/
def wait (course : Course σ) (stand : Stand) : Stand :=
  stand.undergoAll course.provider (course.serving.map (·.1))

/-- The workers are asked to end and are waited for. -/
def stop (course : Course σ) (stand : Stand) : Except ServerError Unit × Stand :=
  let stand := stand.undergoAll course.provider (.shutdown :: course.closing)
  match stand.running with
  | none => (.ok (), stand)
  | some server =>
    let after := ((server.settle course.provider stand.files).run course.state).1
    (after.1.joined.map fun _ => (), { stand with files := after.2.1, running := some after.1 })

/-- An act on what there is now. -/
def onNow {α : Type} (act : Stand → α × Stand) : StateM Scene α := fun scene =>
  let (value, now) := act scene.now
  (value, { scene with now })

/-- The daemon whose launch takes the course. -/
def daemon (course : Course σ) : Daemon (StateM Scene) where
  load := pure course.loaded
  initialise config := pure (course.initialised config)
  bind settings := onNow (course.bind settings)
  start := onNow course.start
  wait := onNow fun stand => (course.waited, course.wait stand)
  stop := onNow course.stop
  counters := onNow fun stand => (stand.counters, stand)
  note _ := pure ()
  report health := modify (·.report health)

/-- The launch takes its course on some files. -/
def launch (course : Course σ) (files : FileSystem) : Except LaunchError Unit × Scene :=
  course.daemon.launch.run { now := { files } }

/-- Why a launch fails before the daemon is ready, and what there is then. -/
inductive FailsEarly (course : Course σ) (files : FileSystem) : LaunchError → Stand → Prop
  /-- There is no configuration. -/
  | load {error : CommandLine.UsageError} (loaded : course.loaded = .error error) :
    FailsEarly course files (.configuration error) { files }
  /-- The log cannot be set up. -/
  | initialise {config : Config} {error : FilterError} (loaded : course.loaded = .ok config)
    (initialised : course.initialised config = .error error) :
    FailsEarly course files (.telemetry error) { files }
  /-- The server cannot be bound. -/
  | bind {config : Config} {telemetry : Telemetry} {error : ServerError} {stand : Stand}
    (loaded : course.loaded = .ok config) (initialised : course.initialised config = .ok telemetry)
    (bound : course.bind (.ofConfig config) { files } = (.error error, stand)) :
    FailsEarly course files (.server error) stand
  /-- The workers cannot be started. -/
  | start {config : Config} {telemetry : Telemetry} {error : ServerError} {before stand : Stand}
    (loaded : course.loaded = .ok config) (initialised : course.initialised config = .ok telemetry)
    (bound : course.bind (.ofConfig config) { files } = (.ok (), before))
    (started : course.start before = (.error error, stand)) :
    FailsEarly course files (.server error) stand

/-- The daemon is ready with a configuration, and what there is then. -/
inductive Readies (course : Course σ) (files : FileSystem) (config : Config) : Stand → Prop
  /-- The server is bound, then its workers are started. -/
  | intro {telemetry : Telemetry} {before stand : Stand} (loaded : course.loaded = .ok config)
    (initialised : course.initialised config = .ok telemetry)
    (bound : course.bind (.ofConfig config) { files } = (.ok (), before))
    (started : course.start before = (.ok (), stand)) : Readies course files config stand

/-- What a launch comes to once the server has been stopped. An error of the server hides one of
waiting. -/
def verdict : Except ServerError Unit → Except ShutdownError Unit → Except LaunchError Unit
  | .error error, _ => .error (.server error)
  | .ok (), .error error => .error (.shutdown error)
  | .ok (), .ok () => .ok ()

/-- The last report of a launch whose server has been stopped. -/
def lastReport (result : Except LaunchError Unit) (stand : Stand) : HealthReport :=
  match result with
  | .ok () => .stopped stand.counters
  | .error error => .failed error

/-- A launch that fails before the daemon is ready. -/
def failed (files : FileSystem) (error : LaunchError) (stand : Stand) :
    Except LaunchError Unit × Scene :=
  (.error error, { now := stand, reports := [(.starting, { files }), (.failed error, stand)] })

/-- A launch whose daemon is ready. The server is stopped whatever waiting comes to. -/
def concluded (course : Course σ) (files : FileSystem) (config : Config) (ready : Stand) :
    Except LaunchError Unit × Scene :=
  let before := course.wait ready
  let stopped := course.stop before
  let result := verdict stopped.1 course.waited
  (result,
    { now := stopped.2
      reports := [(.starting, { files }), (.ready config, ready), (.stopping, before),
        (lastReport result stopped.2, stopped.2)] })

end Course

namespace Daemon

variable {S α β ε : Type} {wrap : ε → LaunchError} {state later : S}
  {next : α → ExceptT LaunchError (StateM S) β}

/-- A launch goes on behind a part that cannot fail. -/
theorem run_behind (act : StateM S α) :
    ((liftM act : ExceptT LaunchError (StateM S) α) >>= next).run.run state =
      (next (act.run state).1).run.run (act.run state).2 := rfl

end Daemon

namespace Course

open Daemon

variable {course : Course σ} {files : FileSystem} {error : LaunchError} {config : Config}
  {ready : Stand} {scene : Scene}

/-- A launch that has only begun. -/
def begun (files : FileSystem) : Scene := Scene.report { now := { files } } .starting

end Course

end ThresholdDaemon
