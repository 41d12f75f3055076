import Mathlib.Data.List.Nodup
import ThresholdDaemon.Host
import ThresholdDaemon.Proofs.Server.Settling

/-!
# What operations do to the servers of a host

Each operation of a server replaces that server and leaves all others as they are. The files change
only where the server makes its socket or takes it away.
-/
namespace ThresholdDaemon

variable {σ : Type}

/-- The listener of a server. -/
def HostedServer.listener? (hosted : HostedServer σ) : Option Listener :=
  match hosted.phase with
  | .bound server => some server.listener
  | .running server => server.listener
  | .gone _ => none

/-- The files of a host once a server has taken away its socket. -/
def HostedServer.filesWithout (hosted : HostedServer σ) (fs : FileSystem) : FileSystem :=
  hosted.listener?.elim fs fun listener => (listener.release fs).1

namespace Host

/-- What a program comes to that goes on from where another has ended. -/
theorem run_behind {α β ω : Type} (first : StateM ω α) (next : α → StateM ω β) (state : ω) :
    (first >>= next).run state = (next (first.run state).1).run (first.run state).2 := rfl

/-- What a program comes to that looks at the state first. -/
theorem run_looking {β ω : Type} (next : ω → StateM ω β) (state : ω) :
    (get >>= next).run state = (next state).run state := rfl

/-- One server of a host is another, and the others are as they were. -/
structure Replaces (before after : Host σ) (name : String) (hosted : HostedServer σ) : Prop where
  /-- The servers have different names. -/
  names : (after.servers.map Prod.fst).Nodup
  /-- Only the one server is another. -/
  server : ∀ other, after.server? other = if other = name then some hosted else before.server? other

variable {host before after last : Host σ} {name : String} {hosted : HostedServer σ}

/-- The server that has been replaced last is there. -/
theorem Replaces.self (replaces : Replaces before after name hosted) :
    after.server? name = some hosted :=
  (replaces.server name).trans (if_pos rfl)

/-- Of two replacements of one server the second one counts. -/
theorem Replaces.trans (first : Replaces before after name hosted) {again : HostedServer σ}
    (second : Replaces after last name again) : Replaces before last name again := by
  refine ⟨second.names, fun other => ?_⟩
  rw [second.server, first.server]
  by_cases same : other = name
  · rw [if_pos same, if_pos same]
  · rw [if_neg same, if_neg same, if_neg same]

/-- A server that is found under a name has it. -/
theorem mem_of_server? (found : host.server? name = some hosted) :
    (name, hosted) ∈ host.servers := by
  obtain ⟨front, behind, whole, -⟩ := List.lookup_eq_some_iff.mp found
  rw [whole]
  exact List.mem_append_right _ List.mem_cons_self

/-- Some server is found under a name that a server has. -/
theorem server?_ne_none (member : (name, hosted) ∈ host.servers) : host.server? name ≠ none := by
  intro none
  have apart := List.lookup_eq_none_iff.mp none (name, hosted) member
  simp at apart

/-- A server is found under its name. -/
theorem server?_of_mem (distinct : (host.servers.map Prod.fst).Nodup)
    (member : (name, hosted) ∈ host.servers) : host.server? name = some hosted := by
  obtain ⟨other, found⟩ := Option.ne_none_iff_exists'.mp (server?_ne_none member)
  have same := List.inj_on_of_nodup_map distinct (mem_of_server? found) member rfl
  rw [found, (Prod.mk.inj same).2]

/-- What is found under a name once each value is changed. -/
theorem lookup_map_values {β : Type} (change : String → β → β) (entries : List (String × β))
    (other : String) :
    (entries.map fun (name, value) => (name, change name value)).lookup other =
      (entries.lookup other).map (change other) := by
  induction entries with
  | nil => rfl
  | cons entry rest ih =>
    obtain ⟨name, value⟩ := entry
    rw [List.map_cons, List.lookup_cons, List.lookup_cons, ih]
    by_cases same : other = name
    · subst same
      rw [beq_self_eq_true]
      rfl
    · rw [beq_false_of_ne same]

/-- A server that is put under a name replaces the one that had the name. -/
theorem replaces_putServer (distinct : (host.servers.map Prod.fst).Nodup) (name : String)
    (hosted : HostedServer σ) : Replaces host (host.putServer name hosted) name hosted := by
  unfold putServer
  by_cases taken : host.servers.any (·.1 = name) = true
  · rw [if_pos taken]
    refine ⟨?_, fun other => ?_⟩
    · rw [List.map_map]
      exact distinct
    · have changed := lookup_map_values (fun other old => if other = name then hosted else old)
        host.servers other
      refine changed.trans ?_
      by_cases same : other = name
      · subst same
        obtain ⟨⟨_, old⟩, member, named⟩ := List.any_eq_true.mp taken
        obtain rfl := of_decide_eq_true named
        obtain ⟨found, known⟩ := Option.ne_none_iff_exists'.mp (server?_ne_none member)
        rw [if_pos rfl]
        show Option.map _ (host.server? _) = _
        rw [known, Option.map_some, if_pos rfl]
      · rw [if_neg same]
        simp only [if_neg same, Option.map_id']
        rfl
  · rw [if_neg taken]
    have fresh : ∀ entry ∈ host.servers, entry.1 ≠ name := by
      intro entry member same
      exact taken (List.any_eq_true.mpr ⟨entry, member, decide_eq_true same⟩)
    refine ⟨?_, fun other => ?_⟩
    · rw [List.map_append]
      refine List.Nodup.append distinct (List.nodup_singleton name) fun other member same => ?_
      obtain ⟨entry, listed, rfl⟩ := List.mem_map.mp member
      exact fresh entry listed (List.mem_singleton.mp same)
    · show (host.servers ++ [(name, hosted)]).lookup other = _
      rw [List.lookup_append]
      by_cases same : other = name
      · subst same
        have unknown : host.servers.lookup other = none := by
          refine List.lookup_eq_none_iff.mpr fun entry member => ?_
          simpa using Ne.symm (fresh entry member)
        rw [unknown, if_pos rfl]
        simp
      · rw [if_neg same, List.lookup_cons, beq_false_of_ne same]
        exact Option.or_none

/-- Putting a server under a name leaves the files as they are. -/
@[simp] theorem files_putServer (host : Host σ) (name : String) (hosted : HostedServer σ) :
    (host.putServer name hosted).files = host.files := by
  unfold putServer
  split <;> rfl

/-- Only the servers of a host count for which of them is replaced. -/
theorem Replaces.congr (replaces : Replaces before after name hosted)
    (same : last.servers = after.servers) : Replaces before last name hosted := by
  refine ⟨same ▸ replaces.names, fun other => ?_⟩
  have found : last.server? other = after.server? other :=
    congrArg (fun servers => List.lookup other servers) same
  rw [found, replaces.server other]

/-- A server that settles is replaced by what its workers come to, and the last of them takes the
socket with it. -/
theorem settle_running (distinct : (host.servers.map Prod.fst).Nodup) {server : RunningServer}
    (found : host.server? name = some hosted) (runs : hosted.phase = .running server) :
    let settled := server.settled hosted.provider hosted.state
    let after := ((settle name).run host).2
    ∃ state, Replaces host after name { hosted with state, phase := .running settled } ∧
      after.files = if settled.pool.isOver then hosted.filesWithout host.files else host.files := by
  have unfolded : ((settle name).run host).2 =
      let taken := (server.settle hosted.provider host.files).run hosted.state
      let placed := host.putServer name
        { hosted with state := taken.2, phase := .running taken.1.1 }
      { placed with files := taken.1.2.1 }.observe taken.1.2.2 := by
    unfold settle
    simp only [StateT.run, modify, modifyGet, MonadStateOf.modifyGet, StateT.modifyGet, found, runs]
    rfl
  simp only at unfolded
  obtain ⟨settled_eq, files_eq⟩ := server.run_settle hosted.provider host.files hosted.state
  rw [settled_eq, files_eq] at unfolded
  have socket : hosted.filesWithout host.files =
      server.listener.elim host.files fun listener => (listener.release host.files).1 := by
    unfold HostedServer.filesWithout HostedServer.listener?
    rw [runs]
  refine ⟨((server.settle hosted.provider host.files).run hosted.state).2, ?_, ?_⟩
  · rw [unfolded]
    exact (replaces_putServer distinct name _).congr rfl
  · rw [unfolded, socket]
    rfl

/-- A server that does not run has no workers to settle. -/
theorem settle_of_not_running (still : ∀ hosted server, host.server? name = some hosted →
    hosted.phase ≠ .running server) : ((settle name).run host).2 = host := by
  unfold settle
  simp only [StateT.run, modify, modifyGet, MonadStateOf.modifyGet, StateT.modifyGet]
  split
  · split
    · exact absurd ‹_› (still _ _ ‹_›)
    · rfl
  · rfl

/-- The workers of a server that are asked to end do so, and take the socket with them. -/
theorem close_running (distinct : (host.servers.map Prod.fst).Nodup) {server : RunningServer}
    (found : host.server? name = some hosted) (runs : hosted.phase = .running server) :
    let settled := server.requestShutdown.settled hosted.provider hosted.state
    let after := ((settle name).run ((requestShutdown name).run host).2).2
    ∃ state, Replaces host after name { hosted with state, phase := .running settled } ∧
      after.files = hosted.filesWithout host.files := by
  have asks : ((requestShutdown name).run host).2 =
      host.putServer name { hosted with phase := .running server.requestShutdown } := by
    unfold requestShutdown
    simp only [StateT.run, modify, modifyGet, MonadStateOf.modifyGet, StateT.modifyGet, found, runs]
    rfl
  have asked := replaces_putServer distinct name
    { hosted with phase := .running server.requestShutdown }
  rw [asks]
  obtain ⟨state, replaces, files⟩ := settle_running asked.names asked.self rfl
  refine ⟨state, asked.trans replaces, files.trans ?_⟩
  have finished := server.requestShutdown.isOver_settled rfl hosted.provider hosted.state
  rw [if_pos finished, files_putServer]
  unfold HostedServer.filesWithout HostedServer.listener?
  rw [runs]
  rfl

/-- A server of a host has gone away with its socket, and the others are as they were. -/
structure Loses (before after : Host σ) (name : String) (hosted : HostedServer σ) : Prop where
  /-- The server is gone. -/
  server : ∃ left counters, Replaces before after name left ∧ left.phase = .gone counters
  /-- The socket is gone too. -/
  files : after.files = hosted.filesWithout before.files

/-- A server that is given up goes away with its socket. -/
theorem drop_loses (distinct : (host.servers.map Prod.fst).Nodup)
    (found : host.server? name = some hosted) :
    Loses host ((drop name).run host).2 name hosted := by
  cases phase : hosted.phase with
  | bound server =>
    have dropping : ((drop name).run host).2 = ((note (server.drop host.files).2).run
        { host.putServer name { hosted with phase := .gone {} } with
          files := (server.drop host.files).1 }).2 := by
      unfold drop
      rw [run_looking]
      simp only [found, phase]
      rfl
    rw [dropping]
    refine ⟨⟨{ hosted with phase := .gone {} }, {},
      (replaces_putServer distinct name _).congr rfl, rfl⟩, ?_⟩
    unfold HostedServer.filesWithout HostedServer.listener?
    rw [phase]
    rfl
  | running server =>
    obtain ⟨state, replaces, files⟩ := close_running distinct found phase
    let closed := ((settle name).run ((requestShutdown name).run host).2).2
    let counters := (closed.server? name).elim {} (·.counters)
    have dropping : ((drop name).run host).2 =
        closed.putServer name { hosted with phase := .gone counters } := by
      unfold drop
      rw [run_looking]
      simp only [found, phase]
      rfl
    rw [dropping]
    refine ⟨⟨{ hosted with phase := .gone counters }, counters,
      replaces.trans (replaces_putServer replaces.names name _), rfl⟩, ?_⟩
    exact (files_putServer closed name _).trans files
  | gone counters =>
    have dropping : ((drop name).run host).2 = host := by
      unfold drop
      rw [run_looking]
      simp only [found, phase]
      rfl
    rw [dropping]
    refine ⟨⟨hosted, counters, ⟨distinct, fun other => ?_⟩, phase⟩, ?_⟩
    · by_cases same : other = name
      · rw [if_pos same, same]
        exact found
      · rw [if_neg same]
    · unfold HostedServer.filesWithout HostedServer.listener?
      rw [phase]
      rfl

/-- Only a server that is there goes away. -/
theorem drop_of_none (absent : host.server? name = none) : ((drop name).run host).2 = host := by
  unfold drop
  rw [run_looking]
  simp only [absent]
  rfl

/-- A server that runs is stopped with its socket. It stops without an error if its workers are all
there. -/
theorem stop_running (distinct : (host.servers.map Prod.fst).Nodup) {server : RunningServer}
    (found : host.server? name = some hosted) (runs : hosted.phase = .running server) :
    let result := (stop name).run host
    Loses host result.2 name hosted ∧
      (server.IsOpen → server.settings.maxFrameBytes.toNat < allocationMax →
        result.1 = .ok ()) := by
  obtain ⟨state, replaces, files⟩ := close_running distinct found runs
  let closed := ((settle name).run ((requestShutdown name).run host).2).2
  let settled := server.requestShutdown.settled hosted.provider hosted.state
  let gone : HostedServer σ := { hosted with state, phase := .gone settled.counters }
  have placed := replaces.trans (replaces_putServer replaces.names name gone)
  cases joined : settled.joined with
  | ok events =>
    have stopping : (stop name).run host =
        (.ok (), ((note events).run (closed.putServer name gone)).2) := by
      unfold stop join
      rw [run_behind, run_behind, run_looking]
      simp only [settled] at joined
      simp only [replaces.self, joined]
      rfl
    simp only [stopping]
    exact ⟨⟨⟨gone, settled.counters, placed.congr rfl, rfl⟩,
      (files_putServer closed name gone).trans files⟩, fun _ _ => trivial⟩
  | error error =>
    have stopping : (stop name).run host = (.error error, closed.putServer name gone) := by
      unfold stop join
      rw [run_behind, run_behind, run_looking]
      simp only [settled] at joined
      simp only [replaces.self, joined]
      rfl
    simp only [stopping]
    refine ⟨⟨⟨gone, settled.counters, placed.congr rfl, rfl⟩,
      (files_putServer closed name gone).trans files⟩, fun opened fits => ?_⟩
    obtain ⟨events, fine⟩ := opened.joined fits hosted.provider hosted.state
    cases joined.symm.trans fine

/-- A server that does not run is not asked to end. -/
theorem requestShutdown_of_not_running (still : ∀ hosted server, host.server? name = some hosted →
    hosted.phase ≠ .running server) : ((requestShutdown name).run host).2 = host := by
  unfold requestShutdown
  simp only [StateT.run, modify, modifyGet, MonadStateOf.modifyGet, StateT.modifyGet]
  split
  · split
    · exact absurd ‹_› (still _ _ ‹_›)
    · rfl
  · rfl

/-- Only a server that runs is stopped. -/
theorem stop_of_not_running (still : ∀ hosted server, host.server? name = some hosted →
    hosted.phase ≠ .running server) : ((stop name).run host).2 = host := by
  have closed : ((settle name).run ((requestShutdown name).run host).2).2 = host := by
    rw [requestShutdown_of_not_running still, settle_of_not_running still]
  unfold stop join
  rw [run_behind, run_behind, run_looking, closed]
  split
  · split
    · exact absurd ‹_› (still _ _ ‹_›)
    · rfl
  · rfl

/-- A server that is bound is started. -/
theorem run_spawn {server : BoundServer} (found : host.server? name = some hosted)
    (waits : hosted.phase = .bound server) (faults : SpawnFaults) :
    (spawn name faults).run host =
      let started := (server.start faults hosted.provider host.files).run hosted.state
      let phase := match started.1.2.result with
        | .ok () => .running started.1.2.server
        | .error _ => .gone started.1.2.server.counters
      let placed := host.putServer name { hosted with state := started.2, phase }
      (started.1.2.result, ((note started.1.2.log).run
        ({ placed with files := started.1.1 }.observe started.1.2.turns)).2) := by
  unfold spawn
  rw [run_looking]
  simp only [found, waits]
  rfl

/-- A server that is bound gets its workers if all of them can be started. -/
theorem spawn_bound (distinct : (host.servers.map Prod.fst).Nodup) {server : BoundServer}
    (found : host.server? name = some hosted) (waits : hosted.phase = .bound server)
    {faults : SpawnFaults} (staffed : server.unspawned? faults = none) :
    let after := ((spawn name faults).run host).2
    Replaces host after name { hosted with phase := .running server.running } ∧
      after.files = host.files := by
  rw [run_spawn found waits, BoundServer.start_of_staffed staffed]
  exact ⟨(replaces_putServer distinct name _).congr rfl, rfl⟩

/-- A server of which not all workers can be started fails and goes away with its socket. -/
theorem spawn_loses (distinct : (host.servers.map Prod.fst).Nodup) {server : BoundServer}
    (found : host.server? name = some hosted) (waits : hosted.phase = .bound server)
    {faults : SpawnFaults} {index : Nat} {error : SystemError}
    (unspawned : server.unspawned? faults = some (index, error)) :
    let result := (spawn name faults).run host
    Loses host result.2 name hosted ∧
      result.1 = .error (.listener (.spawnWorker index error)) := by
  obtain ⟨files, failed⟩ :=
    BoundServer.start_of_unspawned unspawned hosted.provider host.files hosted.state
  rw [run_spawn found waits]
  simp only [failed]
  refine ⟨⟨⟨_, _, (replaces_putServer distinct name _).congr rfl, rfl⟩, ?_⟩, trivial⟩
  unfold HostedServer.filesWithout HostedServer.listener?
  rw [waits]
  exact files

/-- Only a server that is bound gets its workers. -/
theorem spawn_of_not_bound (still : ∀ hosted server, host.server? name = some hosted →
    hosted.phase ≠ .bound server) (faults : SpawnFaults) :
    ((spawn name faults).run host).2 = host := by
  unfold spawn
  rw [run_looking]
  split
  · split
    · exact absurd ‹_› (still _ _ ‹_›)
    · rfl
  · rfl

/-- A connection that arrives leaves a server its listener. -/
@[simp] theorem listener?_arriveAt (connection : Connection) (hosted : HostedServer σ) :
    (arriveAt connection hosted).listener? = hosted.listener? := by
  unfold HostedServer.listener? arriveAt
  cases phase : hosted.phase with
  | gone counters => simp only [phase]
  | _ => rfl

/-- A connection that arrives leaves a server its socket path. -/
@[simp] theorem socket_arriveAt (connection : Connection) (hosted : HostedServer σ) :
    (arriveAt connection hosted).socket = hosted.socket := by
  unfold arriveAt
  cases hosted.phase <;> rfl

/-- A connection arrives at a server that owns the socket, which goes on then; if there is none
nothing happens. -/
theorem deliver_eq (distinct : (host.servers.map Prod.fst).Nodup) (socket : NodeId)
    (connection : Connection) :
    ((deliver socket connection).run host).2 = host ∧
        (∀ name hosted, host.server? name = some hosted → owns socket hosted = false) ∨
      ∃ name hosted, host.server? name = some hosted ∧ owns socket hosted = true ∧
        ((deliver socket connection).run host).2 =
          ((settle name).run (host.putServer name (arriveAt connection hosted))).2 := by
  unfold deliver
  rw [run_looking]
  cases owner : host.servers.find? fun entry => owns socket entry.2 with
  | none =>
    refine .inl ⟨rfl, fun name hosted found => ?_⟩
    have none_owns := List.find?_eq_none.mp owner (name, hosted) (mem_of_server? found)
    simpa using none_owns
  | some entry =>
    obtain ⟨name, hosted⟩ := entry
    have listed := List.mem_of_find?_eq_some owner
    have owned := List.find?_some owner
    exact .inr ⟨name, hosted, server?_of_mem distinct listed, owned, rfl⟩

/-- A host at which the connection of an attempt to bind a server has arrived, if it has found
somebody who listens. -/
def reached (host : Host σ) : Option NodeId → Host σ
  | none => host
  | some socket =>
    ((deliver socket { number := host.arrivals }).run
      { host with arrivals := host.arrivals + 1 }).2

/-- A host behind an attempt to bind a server. -/
def attempted (host : Host σ) (settings : ServerSettings) : Host σ :=
  let outcome := BoundServer.bind settings host.files
  let logged : Host σ :=
    { host with files := outcome.1, log := host.log ++ Thread.main.records outcome.2.log }
  logged.reached outcome.2.probed

/-- An attempt that has connected to nobody changes the files alone. -/
theorem attempted_of_unprobed {settings : ServerSettings}
    (unprobed : (BoundServer.bind settings host.files).2.probed = none) :
    (host.attempted settings).files = (BoundServer.bind settings host.files).1 ∧
      (host.attempted settings).servers = host.servers := by
  unfold attempted
  simp only [unprobed]
  exact ⟨rfl, rfl⟩

/-- A server is put under its name once the server that had the name has gone away. -/
theorem run_bind (host : Host σ) (name : String) (settings : ServerSettings)
    (provider : Provider σ) (state : σ) :
    (bind name settings provider state).run host =
      match (BoundServer.bind settings host.files).2.result with
      | .error error => (.error error, host.attempted settings)
      | .ok server =>
        (.ok (), ((drop name).run (host.attempted settings)).2.putServer name
          { provider, state, socket := settings.socket, phase := .bound server }) := by
  let outcome := BoundServer.bind settings host.files
  let logged : Host σ :=
    { host with files := outcome.1, log := host.log ++ Thread.main.records outcome.2.log }
  let ending : StateM (Host σ) (Except ServerError Unit) :=
    match outcome.2.result with
    | .error error => return .error error
    | .ok server => do
      drop name
      modify (·.putServer name { provider, state, socket := settings.socket, phase := .bound server })
      return .ok ()
  have binding : (bind name settings provider state).run host =
      (match outcome.2.probed with
        | none => ending
        | some socket => do
          let number ← nextNumber
          deliver socket { number }
          ending : StateM (Host σ) (Except ServerError Unit)).run logged := rfl
  have arrives (probed : Option NodeId) :
      (match probed with
        | none => ending
        | some socket => do
          let number ← nextNumber
          deliver socket { number }
          ending : StateM (Host σ) (Except ServerError Unit)).run logged =
        ending.run (logged.reached probed) := by
    cases probed <;> rfl
  have ends : (bind name settings provider state).run host = ending.run (host.attempted settings) :=
    binding.trans (arrives outcome.2.probed)
  rw [ends]
  cases result : outcome.2.result with
  | error error =>
    simp only [ending, result]
    rfl
  | ok server =>
    simp only [ending, result]
    rfl

end Host

end ThresholdDaemon
