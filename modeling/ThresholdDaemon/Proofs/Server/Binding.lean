import ThresholdDaemon.Proofs.Listener.Binding
import ThresholdDaemon.Proofs.Socket.Directory
import ThresholdDaemon.Server

/-!
# What binding a server comes to

A server is bound where nothing was or where nobody listened, and then its listener owns its socket.
A server whose path is in use fails, and nothing changes. Once a path is free a server can be bound
to it.
-/
namespace ThresholdDaemon.BoundServer

open FileSystem

variable {fs : FileSystem} {settings : ServerSettings}

/-- The files that a server finds at its path: those behind the directories that are made. -/
def prepared (settings : ServerSettings) (fs : FileSystem) : FileSystem :=
  (settings.socket.prepare fs).1

/-- A server whose directories cannot be prepared fails. -/
theorem bind_of_prepare_error {error : PrepareError}
    (failed : (settings.socket.prepare fs).2 = .error error) :
    bind settings fs = (prepared settings fs, { result := .error (.prepare error) }) := by
  unfold bind prepared
  cases preparing : settings.socket.prepare fs with
  | mk later result =>
    rw [preparing] at failed
    obtain rfl : result = .error error := failed
    rfl

/-- A server whose directories are prepared comes to what its listener comes to. -/
theorem bind_of_prepare_ok (done : (settings.socket.prepare fs).2 = .ok ()) :
    bind settings fs =
      let attempt := Binding.attempt (prepared settings fs) settings.socket.path
      (attempt.2,
        { result := match attempt.1.1.result with
            | .ok listener => .ok { settings, listener }
            | .error error => .error (.listener error)
          probed := attempt.1.1.probed
          log := attempt.1.2 }) := by
  unfold bind prepared
  cases preparing : settings.socket.prepare fs with
  | mk later result =>
    rw [preparing] at done
    obtain rfl : result = .ok () := done
    have run := Binding.run_eq_attempt later settings.socket.path
    simp only
    change Binding.run socketCalls settings.socket.path later = _ at run
    generalize Binding.run socketCalls settings.socket.path later = outcome at run ⊢
    subst run
    rfl

/-- Making the directories of a server leaves the listeners what they own. -/
theorem owns_prepared {other : Listener} (owns : other.Owns fs) :
    other.Owns (prepared settings fs) :=
  SocketPath.prepare_keeps (fun _ dir name node owns => owns.addNode dir name node) owns

/-- Clearing the path of a server leaves the listeners what they own. -/
theorem owns_cleared {other : Listener} (owns : other.Owns fs) {path : String} {cleared : FileSystem}
    (clear : cleared = fs ∧ fs.existsAt path = false ∨
      fs.SocketAt path .closed ∧ fs.remove path = .ok cleared) : other.Owns cleared := by
  rcases clear with ⟨rfl, -⟩ | ⟨stale, removed⟩
  · exact owns
  · exact owns.remove stale removed

/-- Whatever binding a server comes to, the other listeners keep what they own. -/
theorem owns_bind {other : Listener} (owns : other.Owns fs) : other.Owns (bind settings fs).1 := by
  have reached : other.Owns (prepared settings fs) := owns_prepared owns
  cases preparing : (settings.socket.prepare fs).2 with
  | error error => rwa [bind_of_prepare_error preparing]
  | ok =>
    rw [bind_of_prepare_ok preparing]
    show other.Owns (Binding.attempt (prepared settings fs) settings.socket.path).2
    rcases Binding.attempt_cases (prepared settings fs) settings.socket.path with
      ⟨cleared, log, makes, clear⟩ | ⟨id, refused, -⟩ | ⟨error, log, refused, -⟩
    · have kept := owns_cleared reached clear
      rw [makes]
      unfold Binding.listenAt
      cases made : cleared.bindSocket .listening settings.socket.path with
      | error error => exact kept
      | ok result => exact (kept.bindSocket made).1
    · rwa [refused]
    · rwa [refused]

/-- A server that has been bound has the settings that it was bound with. -/
theorem settings_of_bind_ok {server : BoundServer}
    (bound : (bind settings fs).2.result = .ok server) : server.settings = settings := by
  cases preparing : (settings.socket.prepare fs).2 with
  | error error =>
    rw [bind_of_prepare_error preparing] at bound
    cases bound
  | ok =>
    rw [bind_of_prepare_ok preparing] at bound
    cases made : (Binding.attempt (prepared settings fs) settings.socket.path).1.1.result with
    | error error =>
      simp only [made] at bound
      cases bound
    | ok listener =>
      simp only [made] at bound
      rw [← Except.ok.inj bound]

/-- What is known of a server that has been bound. -/
structure IsBound (settings : ServerSettings) (fs : FileSystem) (server : BoundServer) : Prop where
  /-- The listener is for the path of the settings. -/
  path_eq : server.listener.path = settings.socket.path
  /-- The listener owns its socket. -/
  owns : server.listener.Owns (bind settings fs).1
  /-- No other listener has the same socket. -/
  apart : ∀ other : Listener, other.Owns fs → other.socket ≠ server.listener.socket
  /-- Nothing has been at the path, or a socket that nobody listened at. -/
  vacant : fs.find settings.socket.path false = .error absent ∨
    fs.SocketAt settings.socket.path .closed
  /-- Nobody has been connected to. -/
  unprobed : (bind settings fs).2.probed = none

/-- What is vacant behind the directories that are made for a server has been vacant before. -/
theorem vacant_of_prepared {path : String} (path_eq : settings.socket.path = path)
    (checked : checkPath path = .ok ())
    (vacant : (prepared settings fs).find path false = .error absent ∨
      (prepared settings fs).SocketAt path .closed) :
    fs.find path false = .error absent ∨ fs.SocketAt path .closed := by
  subst path_eq
  by_cases same : prepared settings fs = fs
  · rwa [same] at vacant
  · exact .inl (SocketPath.find_of_prepare_ne checked false same)

/-- A server is bound only where nothing was or where nobody listened. -/
theorem isBound_of_bind_ok {server : BoundServer}
    (bound : (bind settings fs).2.result = .ok server) : IsBound settings fs server := by
  cases preparing : (settings.socket.prepare fs).2 with
  | error error =>
    rw [bind_of_prepare_error preparing] at bound
    cases bound
  | ok =>
    have whole := bind_of_prepare_ok preparing
    rw [whole] at bound
    rcases Binding.attempt_cases (prepared settings fs) settings.socket.path with
      ⟨cleared, log, makes, clear⟩ | ⟨id, refused, -⟩ | ⟨error, log, refused, -⟩
    · unfold Binding.listenAt at makes
      cases made : cleared.bindSocket .listening settings.socket.path with
      | error error =>
        rw [made] at makes
        rw [makes] at bound
        cases bound
      | ok result =>
        obtain ⟨later, socket⟩ := result
        rw [made] at makes
        rw [makes] at bound whole
        obtain rfl := Except.ok.inj bound
        have owns := Listener.owns_of_bindSocket made
        refine ⟨rfl, by rw [whole]; exact owns, fun other before => ?_, ?_, by rw [whole]⟩
        · exact ((owns_cleared (owns_prepared before) clear).bindSocket made).2
        · rcases clear with ⟨rfl, -⟩ | ⟨stale, removed⟩
          · have free := isFree_of_bindSocket made
            obtain ⟨dir, name, ends, -⟩ := free.free
            exact vacant_of_prepared rfl (ending_eq_named.mp ends).1 (.inl (free.find false))
          · obtain ⟨id, found, at_id⟩ := stale
            exact vacant_of_prepared rfl (checkPath_of_find found) (.inr ⟨id, found, at_id⟩)
    · rw [refused] at bound
      cases bound
    · rw [refused] at bound
      cases bound

/-- A server is bound to a free path. -/
theorem bind_of_isFree (free : fs.IsFree settings.socket.path) :
    ∃ server, (bind settings fs).2.result = .ok server := by
  obtain ⟨dir, name, ends, -, made⟩ := free.bindSocket .listening
  have done := SocketPath.prepare_of_ending ends
  have nothing : fs.existsAt settings.socket.path = false := by
    unfold existsAt
    rw [free.find true]
    rfl
  rw [bind_of_prepare_ok (congrArg Prod.snd done), prepared, done]
  unfold Binding.attempt Binding.listenAt
  rw [nothing, made]
  exact ⟨_, rfl⟩

end ThresholdDaemon.BoundServer
