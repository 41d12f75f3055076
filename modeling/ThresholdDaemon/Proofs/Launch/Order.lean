import ThresholdDaemon.Proofs.Launch.Course

/-!
# The order of a launch

A daemon reports that it starts, and then that it has failed or that it is ready. Once it is ready it
reports that it stops, and last that it has stopped or that it has failed. By then the workers of its
server are all over, its socket is gone and its counters are final, also if waiting for the signal
has failed.
-/
namespace ThresholdDaemon

variable {σ : Type} {files : FileSystem} {bound : BoundServer} {server : RunningServer}
  {stand ready : Stand} {config : Config} {course : Course σ}

namespace Stand

/-- Something happens to the server that is there. -/
theorem undergo_of_running (running : stand.running = some server) (provider : Provider σ)
    (act : PoolAct σ) :
    stand.undergo provider act =
      { stand with
        files := (server.undergo provider stand.files act).2
        running := some (server.undergo provider stand.files act).1 } := by
  unfold undergo
  rw [running]

/-- What every act keeps of a server is so behind several. -/
theorem undergoAll_keeps {provider : Provider σ} (keeps : RunningServer → FileSystem → Prop)
    (stand : Stand) (acts : List (PoolAct σ))
    (step : ∀ server files act, act ∈ acts → keeps server files →
      keeps (server.undergo provider files act).1 (server.undergo provider files act).2)
    (running : stand.running = some server) (start : keeps server stand.files) :
    ∃ later, (stand.undergoAll provider acts).running = some later ∧
      keeps later (stand.undergoAll provider acts).files := by
  induction acts generalizing stand server with
  | nil => exact ⟨server, running, start⟩
  | cons act rest ih =>
    have kept := step server stand.files act List.mem_cons_self start
    unfold undergoAll
    rw [List.foldl_cons, undergo_of_running running]
    exact ih _
      (fun server files act member => step server files act (List.mem_cons_of_mem _ member)) rfl kept

/-- A server is there that runs. -/
def Runs (bound : BoundServer) (stand : Stand) : Prop :=
  ∃ server, stand.running = some server ∧ server.Runs bound stand.files

/-- A server runs on whatever happens. -/
theorem Runs.undergoAll (runs : stand.Runs bound) (provider : Provider σ)
    (acts : List (PoolAct σ)) : (stand.undergoAll provider acts).Runs bound := by
  obtain ⟨server, running, start⟩ := runs
  exact undergoAll_keeps (RunningServer.Runs bound) stand acts
    (fun server files act _ kept => kept.undergo provider act) running start

/-- What there is of a daemon that is ready. -/
structure IsReady (config : Config) (files : FileSystem) (bound : BoundServer) (stand : Stand) :
    Prop where
  /-- The server has been bound on the files that there were. -/
  bound_eq : (BoundServer.bind (.ofConfig config) files).2.result = .ok bound
  /-- It has the settings of the configuration. -/
  settings_eq : bound.settings = .ofConfig config
  /-- Its socket is at the path of the configuration. -/
  path_eq : bound.listener.path = config.socket.path
  /-- Its workers have been started. -/
  runs : stand.Runs bound
  /-- They are not all over if the buffer for its frames can be allocated. -/
  going : config.maxFrameBytes.toNat < allocationMax →
    ∃ server, stand.running = some server ∧ server.pool.isOver = false

/-- What there is of a daemon whose server has been stopped. -/
structure IsDown (path : String) (server : RunningServer) (stand : Stand) : Prop where
  /-- The server is there. -/
  running_eq : stand.running = some server
  /-- Its workers are all over. -/
  finished : server.pool.isOver = true
  /-- Its listener is gone. -/
  listener_eq : server.listener = none
  /-- Nothing is at the path of its socket. -/
  free : stand.files.IsFree path

/-- The counters of a server that has been stopped stay whatever happens. -/
theorem IsDown.counters_undergoAll {path : String} (down : stand.IsDown path server)
    (provider : Provider σ) (acts : List (PoolAct σ)) :
    (stand.undergoAll provider acts).counters = server.counters := by
  let keeps (later : RunningServer) (_ : FileSystem) : Prop :=
    later.pool.isOver = true ∧ later.counters = server.counters
  have step (later : RunningServer) (files : FileSystem) (act : PoolAct σ) (_ : act ∈ acts)
      (kept : keeps later files) :
      keeps (later.undergo provider files act).1 (later.undergo provider files act).2 := by
    have pool := (later.undergo_fst provider files act).2
    constructor
    · rw [pool]
      exact WorkerPool.isOver_undergo _ kept.1 act
    · unfold RunningServer.counters
      rw [pool, (WorkerPool.undergo_of_isOver_all _ kept.1 act).2]
      exact kept.2
  obtain ⟨later, running, -, same⟩ :=
    undergoAll_keeps keeps stand acts step down.running_eq ⟨down.finished, rfl⟩
  unfold counters
  rw [running]
  exact same

end Stand

namespace Course

/-- A server that has been bound is what binding it on the files comes to. -/
theorem bind_ok {settings : ServerSettings}
    (binds : course.bind settings { files } = (.ok (), stand)) :
    ∃ bound, (BoundServer.bind settings files).2.result = .ok bound ∧
      stand = { files := (BoundServer.bind settings files).1, bound := some bound } := by
  unfold bind at binds
  cases refused : course.refusal with
  | some error =>
    rw [refused] at binds
    cases binds
  | none =>
    cases result : (BoundServer.bind settings files).2.result with
    | error error =>
      simp only [refused, result] at binds
      cases binds
    | ok bound =>
      simp only [refused, result] at binds
      exact ⟨bound, rfl, (Prod.mk.inj binds).2.symm⟩

/-- The workers of a server go on from their starts. -/
theorem start_of_staffed (staffed : bound.unspawned? course.faults = none) :
    course.start { files, bound := some bound } = (.ok (),
      Stand.undergoAll course.provider { files, running := some bound.running }
        (course.starting.map (·.1))) := by
  unfold start
  simp only [staffed]

/-- A server of which not all workers can be started is given up. -/
theorem start_of_unspawned {index : Nat} {error : SystemError}
    (unspawned : bound.unspawned? course.faults = some (index, error)) :
    course.start { files, bound := some bound } =
      (.error (.listener (.spawnWorker index error)),
        course.abandon bound index { files, bound := some bound }) := by
  unfold start
  simp only [unspawned]

/-- A server whose workers have been started has none that cannot be. -/
theorem staffed_of_start_ok
    (started : course.start { files, bound := some bound } = (.ok (), stand)) :
    bound.unspawned? course.faults = none := by
  cases unspawned : bound.unspawned? course.faults with
  | none => rfl
  | some fault => cases (start_of_unspawned unspawned).symm.trans started

/-- Nothing is left of a server that has been given up. -/
theorem abandon_isDown (course : Course σ) (owns : bound.listener.Owns files) (count : Nat) :
    ∃ server, (course.abandon bound count { files, bound := some bound }).IsDown
      bound.listener.path server := by
  let begun := bound.withWorkers count
  let pool := (course.starting.map (·.1)).foldl
    (WorkerPool.undergo (begun.dispatcher course.provider)) begun.pool
  obtain ⟨left, listener, finished⟩ :=
    { begun with pool }.run_abandon course.provider files course.state
  refine ⟨_, rfl, finished, listener, ?_⟩
  have released : (course.abandon bound count { files, bound := some bound }).files =
      (bound.listener.release files).1 := left
  rw [released]
  exact owns.isFree_release

/-- A daemon is ready only once its server has been bound and its workers have been started. -/
theorem Readies.isReady (readies : course.Readies files config ready) :
    ∃ bound, ready.IsReady config files bound := by
  obtain ⟨-, -, binds, started⟩ := readies
  obtain ⟨bound, bound_eq, rfl⟩ := bind_ok binds
  have known := BoundServer.isBound_of_bind_ok bound_eq
  have settings := BoundServer.settings_of_bind_ok bound_eq
  rw [start_of_staffed (staffed_of_start_ok started)] at started
  obtain rfl := (Prod.mk.inj started).2
  refine ⟨bound, bound_eq, settings, known.path_eq, ?_, fun fits => ?_⟩
  · exact Stand.Runs.undergoAll ⟨_, rfl, .running known.owns⟩ course.provider _
  · -- Nobody has asked for a shutdown yet, and only one that was asked for ends a worker.
    let keeps (server : RunningServer) (_ : FileSystem) : Prop :=
      server.IsOpen ∧ server.settings = .ofConfig config
    have step (server : RunningServer) (files : FileSystem) (act : PoolAct σ)
        (member : act ∈ course.starting.map (·.1)) (kept : keeps server files) :
        keeps (server.undergo course.provider files act).1
          (server.undergo course.provider files act).2 := by
      obtain ⟨opened, same⟩ := kept
      obtain ⟨free, -, rfl⟩ := List.mem_map.mp member
      have room : server.settings.maxFrameBytes.toNat < allocationMax := by rwa [same]
      exact ⟨opened.undergo room course.provider files free.2,
        (server.undergo_fst course.provider files free.1).1.trans same⟩
    obtain ⟨server, running, opened, -⟩ :=
      Stand.undergoAll_keeps keeps { files := _, running := some bound.running } _ step rfl
        ⟨.running bound, settings⟩
    exact ⟨server, running, opened.isOver_eq⟩

/-- A server that runs is stopped. -/
theorem stop_isDown (course : Course σ) (runs : stand.Runs bound) :
    ∃ server, (course.stop stand).2.IsDown bound.listener.path server ∧
      (course.stop stand).1 = server.joined.map fun _ => () := by
  obtain ⟨first, running, start⟩ := runs
  -- From the shutdown on the server runs and the shutdown stays asked for, so settling ends it.
  let keeps (server : RunningServer) (files : FileSystem) : Prop :=
    server.Runs bound files ∧ server.pool.shutdown = true
  have step (server : RunningServer) (files : FileSystem) (act : PoolAct σ)
      (_ : act ∈ course.closing) (kept : keeps server files) :
      keeps (server.undergo course.provider files act).1
        (server.undergo course.provider files act).2 := by
    refine ⟨kept.1.undergo course.provider act, ?_⟩
    rw [(server.undergo_fst course.provider files act).2]
    exact WorkerPool.shutdown_undergo _ kept.2 act
  have asked : keeps (first.undergo course.provider stand.files .shutdown).1
      (first.undergo course.provider stand.files .shutdown).2 := by
    refine ⟨start.undergo course.provider .shutdown, ?_⟩
    rw [(first.undergo_fst course.provider stand.files .shutdown).2]
    rfl
  have next := Stand.undergo_of_running running course.provider .shutdown
  obtain ⟨server, there, kept, shutdown⟩ := Stand.undergoAll_keeps keeps
    (stand.undergo course.provider .shutdown) course.closing step
    (by rw [next]) (by rw [next]; exact asked)
  have same : stand.undergoAll course.provider (.shutdown :: course.closing) =
      (stand.undergo course.provider .shutdown).undergoAll course.provider course.closing := rfl
  obtain ⟨settled, finished⟩ := kept.settle shutdown course.provider course.state
  unfold stop
  simp only [same, there]
  exact ⟨_, ⟨rfl, finished, settled.listener_eq_none finished, settled.free finished⟩, rfl⟩

end Course

/-- Reports of a launch and what it comes to, in the only orders that there are. -/
inductive HealthReport.Concludes : List HealthReport → Except LaunchError Unit → Prop
  /-- The daemon fails before it is ready. -/
  | early (error : LaunchError) : Concludes [.starting, .failed error] (.error error)
  /-- The daemon stops. -/
  | well (config : Config) (counters : Counters) :
    Concludes [.starting, .ready config, .stopping, .stopped counters] (.ok ())
  /-- The daemon fails while it stops. -/
  | late (config : Config) (error : LaunchError) :
    Concludes [.starting, .ready config, .stopping, .failed error] (.error error)

/-- What is so of every launch. -/
structure Course.Orderly (course : Course σ) (files : FileSystem) (result : Except LaunchError Unit)
    (scene : Scene) : Prop where
  /-- The reports come in order, and the last one tells what the launch comes to. -/
  concludes : HealthReport.Concludes (scene.reports.map Prod.fst) result
  /-- There is nothing else at the last report than behind the launch. -/
  last : (scene.reports.map Prod.snd).getLast? = some scene.now
  /-- Nothing is made without a configuration. -/
  unloaded : ∀ error, course.loaded = .error error →
    result = .error (.configuration error) ∧ scene.now = { files }
  /-- Nothing is made without a log. -/
  unset : ∀ config error, course.loaded = .ok config → course.initialised config = .error error →
    result = .error (.telemetry error) ∧ scene.now = { files }
  /-- A launch fails if a worker of its server does not get its thread. The workers before it are
  all over by then, and its socket is gone. -/
  unstaffed : ∀ config telemetry bound index error, course.loaded = .ok config →
    course.initialised config = .ok telemetry → course.refusal = none →
    (BoundServer.bind (.ofConfig config) files).2.result = .ok bound →
    bound.unspawned? course.faults = some (index, error) →
      result = .error (.server (.listener (.spawnWorker index error))) ∧
        ∃ server, scene.now.IsDown config.socket.path server
  /-- The daemon is ready if nothing stands in its way. -/
  reaches : ∀ config telemetry, course.loaded = .ok config →
    course.initialised config = .ok telemetry → course.refusal = none →
    (∀ index < (ServerSettings.ofConfig config).workerCount, course.faults index = none) →
    files.IsFree config.socket.path → ∃ stand, (.ready config, stand) ∈ scene.reports
  /-- It is ready only once its server is bound and all of its workers are started. -/
  ready : ∀ config stand, (.ready config, stand) ∈ scene.reports →
    course.loaded = .ok config ∧ ∃ bound, stand.IsReady config files bound
  /-- Once the daemon has been ready, its server is stopped in the end. An error of the server hides
  one of waiting, and the daemon tells the counters that stay. -/
  down : ∀ config stand, (.ready config, stand) ∈ scene.reports →
    ∃ server, scene.now.IsDown config.socket.path server ∧
      result = Course.verdict (server.joined.map fun _ => ()) course.waited ∧
      (∀ counters, .stopped counters ∈ scene.reports.map Prod.fst → counters = server.counters) ∧
      ∀ acts, (scene.now.undergoAll course.provider acts).counters = server.counters

namespace Course

/-- A launch that fails early is never ready. -/
theorem FailsEarly.not_readies {error : LaunchError} (fails : course.FailsEarly files error stand) :
    ¬ course.Readies files config ready := by
  rintro ⟨loaded, initialised, binds, started⟩
  cases fails with
  | load unloaded => cases loaded.symm.trans unloaded
  | initialise known unset =>
    obtain rfl := Except.ok.inj (known.symm.trans loaded)
    cases initialised.symm.trans unset
  | bind known _ unbound =>
    obtain rfl := Except.ok.inj (known.symm.trans loaded)
    cases binds.symm.trans unbound
  | start known _ bound unstarted =>
    obtain rfl := Except.ok.inj (known.symm.trans loaded)
    obtain rfl := (Prod.mk.inj (bound.symm.trans binds)).2
    cases started.symm.trans unstarted

/-- A server is bound if nothing but the files could stand in its way. -/
theorem bind_of_result (allowed : course.refusal = none)
    (result : (BoundServer.bind (.ofConfig config) files).2.result = .ok bound) :
    course.bind (.ofConfig config) { files } = (.ok (),
      { files := (BoundServer.bind (.ofConfig config) files).1, bound := some bound }) := by
  unfold bind
  simp only [allowed, result]

/-- A daemon becomes ready on a free path if neither binding nor starting fails otherwise. -/
theorem exists_readies {telemetry : Telemetry} (loaded : course.loaded = .ok config)
    (initialised : course.initialised config = .ok telemetry) (allowed : course.refusal = none)
    (staffed : ∀ index < (ServerSettings.ofConfig config).workerCount, course.faults index = none)
    (free : files.IsFree config.socket.path) : ∃ ready, course.Readies files config ready := by
  have vacant : files.IsFree (ServerSettings.ofConfig config).socket.path := free
  obtain ⟨bound, result⟩ := BoundServer.bind_of_isFree vacant
  rw [← BoundServer.settings_of_bind_ok result, ← BoundServer.unspawned?_eq_none] at staffed
  exact ⟨_, loaded, initialised, bind_of_result allowed result, start_of_staffed staffed⟩

/-- A launch that fails early is in order. -/
theorem FailsEarly.orderly {error : LaunchError} (fails : course.FailsEarly files error stand) :
    course.Orderly files (failed files error stand).1 (failed files error stand).2 := by
  have never (config : Config) (ready : Stand) :
      (.ready config, ready) ∉ (failed files error stand).2.reports := by
    simp [failed]
  constructor
  case concludes => exact .early error
  case last => rfl
  case unloaded =>
    intro failure unloaded
    cases fails with
    | load known =>
      obtain rfl := Except.error.inj (known.symm.trans unloaded)
      exact ⟨rfl, rfl⟩
    | initialise loaded | bind loaded | start loaded => cases loaded.symm.trans unloaded
  case unset =>
    intro config failure loaded unset
    cases fails with
    | load unloaded => cases loaded.symm.trans unloaded
    | initialise known again =>
      obtain rfl := Except.ok.inj (known.symm.trans loaded)
      obtain rfl := Except.error.inj (again.symm.trans unset)
      exact ⟨rfl, rfl⟩
    | bind known set | start known set =>
      obtain rfl := Except.ok.inj (known.symm.trans loaded)
      cases set.symm.trans unset
  case unstaffed =>
    intro config telemetry bound index failure loaded initialised allowed result unspawned
    have binds := bind_of_result allowed result
    cases fails with
    | load unloaded => cases loaded.symm.trans unloaded
    | initialise known unset =>
      obtain rfl := Except.ok.inj (known.symm.trans loaded)
      cases initialised.symm.trans unset
    | bind known _ unbound =>
      obtain rfl := Except.ok.inj (known.symm.trans loaded)
      cases binds.symm.trans unbound
    | start known _ bind unstarted =>
      obtain rfl := Except.ok.inj (known.symm.trans loaded)
      obtain rfl := (Prod.mk.inj (bind.symm.trans binds)).2
      obtain ⟨same, rfl⟩ := Prod.mk.inj (unstarted.symm.trans (start_of_unspawned unspawned))
      obtain rfl := Except.error.inj same
      have placed := BoundServer.isBound_of_bind_ok result
      obtain ⟨server, down⟩ := course.abandon_isDown placed.owns index
      exact ⟨rfl, server, placed.path_eq ▸ down⟩
  case reaches =>
    intro config telemetry loaded initialised allowed staffed free
    obtain ⟨ready, readies⟩ := exists_readies loaded initialised allowed staffed free
    exact absurd readies fails.not_readies
  case ready =>
    intro config ready member
    exact absurd member (never config ready)
  case down =>
    intro config ready member
    exact absurd member (never config ready)

/-- A launch whose daemon is ready says so once. -/
theorem ready_mem_concluded {other : Config} :
    (.ready other, stand) ∈ (course.concluded files config ready).2.reports ↔
      other = config ∧ stand = ready := by
  have last (result : Except LaunchError Unit) (stand : Stand) :
      lastReport result stand ≠ .ready other := by
    cases result <;> exact nofun
  simp [concluded, (last _ _).symm]

/-- A launch whose daemon has stopped tells the counters that there are. -/
theorem counters_of_stopped_mem_concluded {counters : Counters}
    (told : .stopped counters ∈ (course.concluded files config ready).2.reports.map Prod.fst) :
    counters = (course.concluded files config ready).2.now.counters := by
  have last (result : Except LaunchError Unit) (stand : Stand)
      (same : .stopped counters = lastReport result stand) : counters = stand.counters := by
    cases result with
    | ok => exact HealthReport.stopped.inj same
    | error error => cases same
  simp only [concluded, List.map_cons, List.map_nil, List.mem_cons, List.not_mem_nil, reduceCtorEq,
    false_or, or_false] at told
  exact last _ _ told

/-- The reports of a launch whose daemon is ready are in order. -/
theorem concludes_concluded (course : Course σ) (files : FileSystem) (config : Config)
    (ready : Stand) :
    HealthReport.Concludes ((course.concluded files config ready).2.reports.map Prod.fst)
      (course.concluded files config ready).1 := by
  unfold concluded
  simp only [List.map_cons, List.map_nil]
  generalize verdict _ _ = result
  cases result with
  | ok => exact .well config _
  | error error => exact .late config error

/-- A launch whose daemon is ready is in order. -/
theorem Readies.orderly (readies : course.Readies files config ready) :
    course.Orderly files (course.concluded files config ready).1
      (course.concluded files config ready).2 := by
  obtain ⟨bound, known⟩ := readies.isReady
  obtain ⟨loaded, initialised, binds, started⟩ := id readies
  constructor
  case concludes => exact concludes_concluded course files config ready
  case last => rfl
  case unloaded =>
    intro error unloaded
    cases loaded.symm.trans unloaded
  case unset =>
    intro other error again unset
    obtain rfl := Except.ok.inj (loaded.symm.trans again)
    cases initialised.symm.trans unset
  case unstaffed =>
    intro other telemetry bound index error again _ allowed result unspawned
    obtain rfl := Except.ok.inj (loaded.symm.trans again)
    cases binds.symm.trans (bind_of_result allowed result)
    cases started.symm.trans (start_of_unspawned unspawned)
  case reaches =>
    intro other telemetry again _ _ _ _
    obtain rfl := Except.ok.inj (loaded.symm.trans again)
    exact ⟨ready, ready_mem_concluded.mpr ⟨rfl, rfl⟩⟩
  case ready =>
    intro other stand member
    obtain ⟨rfl, rfl⟩ := ready_mem_concluded.mp member
    exact ⟨loaded, bound, known⟩
  case down =>
    intro other stand member
    obtain ⟨rfl, rfl⟩ := ready_mem_concluded.mp member
    have waiting := known.runs.undergoAll course.provider (course.serving.map (·.1))
    obtain ⟨server, down, joined⟩ := course.stop_isDown waiting
    rw [known.path_eq] at down
    have final := down.counters_undergoAll course.provider
    have told (counters : Counters) (member : .stopped counters ∈
        (course.concluded files other stand).2.reports.map Prod.fst) : counters = server.counters :=
      (counters_of_stopped_mem_concluded member).trans (final [])
    have result : (course.concluded files other stand).1 =
        verdict (server.joined.map fun _ => ()) course.waited := by
      rw [← joined]
      rfl
    exact ⟨server, down, result, told, final⟩

end Course

end ThresholdDaemon
