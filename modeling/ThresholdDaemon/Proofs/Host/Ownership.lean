import ThresholdDaemon.Proofs.Host.Servers
import ThresholdDaemon.Proofs.Server.Binding

/-!
# Servers own their sockets

A host is sound if each server owns the socket of its listener, no two servers own the same one, and
the servers that run take connections. Whatever is done with one server keeps that so: it changes
the files only at its own socket, and at the directories and the socket that are made when it is
bound.
-/
namespace ThresholdDaemon

open FileSystem

variable {σ : Type}

/-- A server that runs takes connections, if the buffer for its frames can be allocated. -/
def HostedServer.IsLively (hosted : HostedServer σ) : Prop :=
  ∀ server, hosted.phase = .running server →
    server.settings.maxFrameBytes.toNat < allocationMax → server.IsOpen

namespace Host

/-- A server of a host holds a listener. -/
def Holds (host : Host σ) (name : String) (listener : Listener) : Prop :=
  ∃ hosted, host.server? name = some hosted ∧ hosted.listener? = some listener

/-- Each server that has a listener owns the socket of its path, no two have the same, and those
that run take connections. -/
structure IsSound (host : Host σ) : Prop where
  /-- The servers have different names. -/
  names : (host.servers.map Prod.fst).Nodup
  /-- A listener owns its socket. -/
  owns : ∀ name listener, host.Holds name listener → listener.Owns host.files
  /-- A listener has the path of its server. -/
  path : ∀ name hosted listener, host.server? name = some hosted →
    hosted.listener? = some listener → listener.path = hosted.socket.path
  /-- No two servers have the same socket. -/
  apart : ∀ name other listener another, host.Holds name listener → host.Holds other another →
    listener.socket = another.socket → name = other
  /-- The servers that run take connections. -/
  lively : ∀ name hosted, host.server? name = some hosted → hosted.IsLively

variable {host before after : Host σ} {name : String} {hosted old : HostedServer σ}

/-- The other servers hold what they held. -/
theorem Replaces.holds_of_ne (replaces : Replaces before after name hosted) {other : String}
    (apart : other ≠ name) {listener : Listener} :
    after.Holds other listener ↔ before.Holds other listener := by
  unfold Holds
  rw [replaces.server, if_neg apart]

/-- The server that has been replaced holds what is its listener now. -/
theorem Replaces.holds_self (replaces : Replaces before after name hosted) {listener : Listener} :
    after.Holds name listener ↔ hosted.listener? = some listener := by
  unfold Holds
  rw [replaces.self]
  simp

namespace IsSound

/-- Only the files and the servers of a host count for whether it is sound. -/
theorem congr (sound : before.IsSound) (files : after.files = before.files)
    (servers : after.servers = before.servers) : after.IsSound := by
  obtain ⟨_, _, _, _, _, _⟩ := before
  obtain ⟨_, _, _, _, _, _⟩ := after
  obtain rfl : _ = _ := files
  obtain rfl : _ = _ := servers
  exact ⟨sound.names, sound.owns, sound.path, sound.apart, sound.lively⟩

/-- A server may be replaced by one with a listener that owns a socket of its own, or with none, if
the others keep what they own. -/
theorem replace (sound : before.IsSound) (replaces : Replaces before after name hosted)
    (others : ∀ other listener, other ≠ name → before.Holds other listener →
      listener.Owns after.files)
    (own : ∀ listener, hosted.listener? = some listener →
      listener.Owns after.files ∧ listener.path = hosted.socket.path ∧
        ∀ other another, other ≠ name → before.Holds other another →
          another.socket ≠ listener.socket)
    (lively : hosted.IsLively) : after.IsSound := by
  refine ⟨replaces.names, fun other listener holds => ?_, fun other found listener known has => ?_,
    fun first second listener another holds_first holds_second same => ?_,
    fun other found known => ?_⟩
  · by_cases here : other = name
    · subst here
      exact (own listener (replaces.holds_self.mp holds)).1
    · exact others other listener here ((replaces.holds_of_ne here).mp holds)
  · rw [replaces.server] at known
    by_cases here : other = name
    · rw [if_pos here] at known
      obtain rfl := Option.some.inj known
      exact (own listener has).2.1
    · rw [if_neg here] at known
      exact sound.path other found listener known has
  · by_cases here : first = name <;> by_cases there : second = name
    · rw [here, there]
    · subst here
      have apart := (own listener (replaces.holds_self.mp holds_first)).2.2 second another there
        ((replaces.holds_of_ne there).mp holds_second)
      exact absurd same.symm apart
    · subst there
      have apart := (own another (replaces.holds_self.mp holds_second)).2.2 first listener here
        ((replaces.holds_of_ne here).mp holds_first)
      exact absurd same apart
    · exact sound.apart first second listener another ((replaces.holds_of_ne here).mp holds_first)
        ((replaces.holds_of_ne there).mp holds_second) same
  · rw [replaces.server] at known
    by_cases here : other = name
    · rw [if_pos here] at known
      exact Option.some.inj known ▸ lively
    · rw [if_neg here] at known
      exact sound.lively other found known

/-- A server may be replaced by one with the same listener. -/
theorem keep (sound : before.IsSound) (found : before.server? name = some old)
    (replaces : Replaces before after name hosted) (files : after.files = before.files)
    (listener : hosted.listener? = old.listener?) (socket : hosted.socket = old.socket)
    (lively : hosted.IsLively) : after.IsSound := by
  refine sound.replace replaces (fun other listener _ holds => files ▸ sound.owns other listener holds)
    (fun own has => ?_) lively
  rw [listener] at has
  refine ⟨files ▸ sound.owns name own ⟨old, found, has⟩, socket ▸ sound.path name old own found has,
    fun other another there holds same => there ?_⟩
  exact sound.apart other name another own holds ⟨old, found, has⟩ same

/-- What a server leaves others when it takes away its socket. -/
theorem owns_filesWithout (sound : host.IsSound) (found : host.server? name = some hosted)
    {listener : Listener} (owns : listener.Owns host.files)
    (apart : ∀ own, hosted.listener? = some own → listener.socket ≠ own.socket) :
    listener.Owns (hosted.filesWithout host.files) := by
  unfold HostedServer.filesWithout
  cases has : hosted.listener? with
  | none => exact owns
  | some own => exact (sound.owns name own ⟨hosted, found, has⟩).release owns (apart own has)

/-- A server may be replaced by one without a listener, once it has taken away its socket. -/
theorem free (sound : before.IsSound) (found : before.server? name = some old)
    (replaces : Replaces before after name hosted)
    (files : after.files = old.filesWithout before.files) (none : hosted.listener? = none)
    (lively : hosted.IsLively) : after.IsSound := by
  refine sound.replace replaces (fun other listener there holds => ?_)
    (fun own has => nomatch none.symm.trans has) lively
  rw [files]
  refine sound.owns_filesWithout found (sound.owns other listener holds) fun own has same => there ?_
  exact sound.apart other name listener own holds ⟨old, found, has⟩ same

/-- A sound host stays sound when the workers of a server go on. -/
theorem settle (sound : host.IsSound) (name : String) :
    ((Host.settle name).run host).2.IsSound := by
  by_cases runs : ∃ hosted server, host.server? name = some hosted ∧ hosted.phase = .running server
  · obtain ⟨hosted, server, found, runs⟩ := runs
    obtain ⟨state, replaces, files⟩ := settle_running sound.names found runs
    have lively : HostedServer.IsLively { hosted with
        state, phase := .running (server.settled hosted.provider hosted.state) } := by
      rintro other ⟨⟩ fits
      exact (sound.lively name hosted found server runs fits).settled fits _ _
    cases finished : (server.settled hosted.provider hosted.state).pool.isOver with
    | true =>
      rw [if_pos finished] at files
      exact sound.free found replaces files (if_pos finished) lively
    | false =>
      rw [if_neg (Bool.eq_false_iff.mp finished)] at files
      refine sound.keep found replaces files ?_ rfl lively
      unfold HostedServer.listener?
      rw [runs]
      exact if_neg (Bool.eq_false_iff.mp finished)
  · rw [settle_of_not_running fun hosted server found phase => runs ⟨hosted, server, found, phase⟩]
    exact sound

/-- A sound host stays sound when a connection arrives at a server. -/
theorem arriveAt (sound : host.IsSound) (found : host.server? name = some hosted)
    (connection : Connection) :
    (host.putServer name (Host.arriveAt connection hosted)).IsSound := by
  refine sound.keep found (replaces_putServer sound.names name _) (files_putServer host name _)
    (listener?_arriveAt connection hosted) (socket_arriveAt connection hosted) ?_
  have lively := sound.lively name hosted found
  unfold Host.arriveAt
  cases phase : hosted.phase with
  | bound server =>
    rintro other ⟨⟩
  | running server =>
    rintro other ⟨⟩ fits
    exact (lively server phase fits).arrive connection
  | gone counters =>
    rintro other running
    cases phase.symm.trans running

/-- A sound host stays sound when a connection arrives at a socket. -/
theorem deliver (sound : host.IsSound) (socket : NodeId) (connection : Connection) :
    ((Host.deliver socket connection).run host).2.IsSound := by
  rcases deliver_eq sound.names socket connection with ⟨same, -⟩ | ⟨name, hosted, found, -, reached⟩
  · rwa [same]
  · rw [reached]
    exact (sound.arriveAt found connection).settle name

/-- A sound host stays sound when a server goes away with its socket. -/
theorem lose (sound : before.IsSound) (found : before.server? name = some old)
    (loses : Loses before after name old) : after.IsSound := by
  obtain ⟨left, counters, replaces, ended⟩ := loses.server
  refine sound.free found replaces loses.files ?_ fun server running => ?_
  · unfold HostedServer.listener?
    rw [ended]
  · cases ended.symm.trans running

/-- A sound host stays sound when a server gets its workers, or goes away because it does not get all
of them. -/
theorem spawn (sound : host.IsSound) (name : String) (faults : SpawnFaults) :
    ((Host.spawn name faults).run host).2.IsSound := by
  by_cases waits : ∃ hosted server, host.server? name = some hosted ∧ hosted.phase = .bound server
  · obtain ⟨hosted, server, found, waits⟩ := waits
    cases unspawned : server.unspawned? faults with
    | none =>
      obtain ⟨replaces, files⟩ := spawn_bound sound.names found waits unspawned
      refine sound.keep found replaces files ?_ rfl ?_
      · unfold HostedServer.listener?
        rw [waits]
        rfl
      · rintro other ⟨⟩ -
        exact .running server
    | some fault => exact sound.lose found (spawn_loses sound.names found waits unspawned).1
  · rw [spawn_of_not_bound fun hosted server found phase => waits ⟨hosted, server, found, phase⟩]
    exact sound

/-- A sound host stays sound when a server is started. -/
theorem startWith (sound : host.IsSound) (name : String) (faults : SpawnFaults) :
    ((Host.startWith name faults).run host).2.IsSound :=
  (sound.spawn name faults).settle name

/-- A sound host stays sound when a server is given up. -/
theorem drop (sound : host.IsSound) (name : String) :
    ((Host.drop name).run host).2.IsSound := by
  cases found : host.server? name with
  | none => rwa [drop_of_none found]
  | some hosted => exact sound.lose found (drop_loses sound.names found)

/-- A sound host stays sound when a server is stopped. -/
theorem stop (sound : host.IsSound) (name : String) :
    ((Host.stop name).run host).2.IsSound := by
  by_cases runs : ∃ hosted server, host.server? name = some hosted ∧ hosted.phase = .running server
  · obtain ⟨hosted, server, found, runs⟩ := runs
    exact sound.lose found (stop_running sound.names found runs).1
  · rw [stop_of_not_running fun hosted server found phase => runs ⟨hosted, server, found, phase⟩]
    exact sound

/-- A sound host stays sound when somebody who listens has been found. -/
theorem reached (sound : host.IsSound) (probed : Option NodeId) :
    (host.reached probed).IsSound := by
  cases probed with
  | none => exact sound
  | some socket =>
    have numbered : IsSound { host with arrivals := host.arrivals + 1 } := sound.congr rfl rfl
    exact numbered.deliver socket _

/-- A sound host stays sound behind an attempt to bind a server. -/
theorem attempted (sound : host.IsSound) (settings : ServerSettings) :
    (host.attempted settings).IsSound := by
  have logged : IsSound { host with
      files := (BoundServer.bind settings host.files).1
      log := host.log ++ Thread.main.records (BoundServer.bind settings host.files).2.log } :=
    ⟨sound.names, fun name listener holds => BoundServer.owns_bind (sound.owns name listener holds),
      sound.path, sound.apart, sound.lively⟩
  exact logged.reached _

/-- A sound host stays sound when a server is put under a name that is left to it and its listener
owns a socket of its own. -/
theorem take (sound : host.IsSound) (name : String) (provider : Provider σ) (state : σ)
    {server : BoundServer} {socket : SocketPath} (path : server.listener.path = socket.path)
    (owns : server.listener.Owns host.files)
    (apart : ∀ other another, other ≠ name → host.Holds other another →
      another.socket ≠ server.listener.socket) :
    (host.putServer name ⟨provider, state, socket, .bound server⟩).IsSound := by
  refine sound.replace (replaces_putServer sound.names name _) (fun other listener _ holds => ?_)
    (fun listener has => ?_) (fun other running => nomatch running)
  · rw [files_putServer]
    exact sound.owns other listener holds
  · obtain rfl := Option.some.inj has
    rw [files_putServer]
    exact ⟨owns, path, apart⟩

/-- A sound host stays sound when a server is bound. -/
theorem bind (sound : host.IsSound) (name : String) (settings : ServerSettings)
    (provider : Provider σ) (state : σ) :
    ((Host.bind name settings provider state).run host).2.IsSound := by
  rw [run_bind]
  cases result : (BoundServer.bind settings host.files).2.result with
  | error error => exact sound.attempted settings
  | ok server =>
    have bound := BoundServer.isBound_of_bind_ok result
    obtain ⟨files, servers⟩ := attempted_of_unprobed bound.unprobed
    have sound_now := sound.attempted settings
    have same (other : String) (another : Listener) :
        (host.attempted settings).Holds other another ↔ host.Holds other another := by
      unfold Holds server?
      rw [servers]
    have apart (other : String) (another : Listener)
        (holds : (host.attempted settings).Holds other another) :
        another.socket ≠ server.listener.socket :=
      bound.apart another (sound.owns other another ((same other another).mp holds))
    have owns : server.listener.Owns (host.attempted settings).files := files ▸ bound.owns
    cases found : (host.attempted settings).server? name with
    | none =>
      simp only [drop_of_none found]
      exact sound_now.take name provider state bound.path_eq owns fun other another _ holds =>
        apart other another holds
    | some old =>
      have loses := drop_loses sound_now.names found
      obtain ⟨left, counters, replaces, -⟩ := loses.server
      refine (sound_now.drop name).take name provider state bound.path_eq ?_
        fun other another there holds => ?_
      · rw [loses.files]
        exact sound_now.owns_filesWithout found owns fun own has same =>
          apart name own ⟨old, found, has⟩ same.symm
      · exact apart other another ((replaces.holds_of_ne there).mp holds)

end IsSound

end Host

end ThresholdDaemon
