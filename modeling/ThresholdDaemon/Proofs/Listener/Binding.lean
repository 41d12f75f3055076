import ThresholdDaemon.Listener.Binding
import ThresholdDaemon.Proofs.Listener.Ownership

/-!
# What binding a path comes to

A path is bound if nothing was at it or a socket that nobody listened at, and then the new listener
owns the socket that it has made. It is in use exactly if a socket that listens is at it and can be
connected to. Whatever an attempt comes to, all other listeners keep what they own.
-/
namespace ThresholdDaemon

open FileSystem

variable {fs later : FileSystem} {path : String}

/-- A socket is at a path itself. -/
def FileSystem.SocketAt (fs : FileSystem) (path : String) (endpoint : Endpoint) : Prop :=
  ∃ id, fs.find path false = .ok id ∧ fs.node? id = some (.socket endpoint)

/-- A socket at a path is seen there. -/
theorem FileSystem.SocketAt.seen {endpoint : Endpoint} (there : fs.SocketAt path endpoint) :
    fs.existsAt path = true ∧ fs.kindAt path = .ok .socket := by
  obtain ⟨id, found, at_id⟩ := there
  have behind := find_true_of_find found (by simp [at_id])
  constructor
  · unfold existsAt
    rw [behind]
    rfl
  · unfold kindAt
    rw [found]
    simp only [bind, Except.bind, at_id]
    rfl

/-- A socket that nobody listens at cannot be connected to. -/
theorem FileSystem.SocketAt.refuses (there : fs.SocketAt path .closed)
    (address : checkAddress path = .ok ()) : fs.connectTo path = .error refused := by
  obtain ⟨id, found, at_id⟩ := there
  rw [connectTo_eq found at_id, address]
  rfl

/-- What becomes of a free path that is bound. -/
theorem FileSystem.IsFree.bindSocket (free : fs.IsFree path) (endpoint : Endpoint) :
    ∃ dir name, fs.ending path = .ok (.named dir name false) ∧ fs.entry? dir name = none ∧
      fs.bindSocket endpoint path = .ok (fs.addNode dir name (.socket endpoint)) := by
  obtain ⟨dir, name, ends, unknown⟩ := free.free
  refine ⟨dir, name, ends, unknown, ?_⟩
  unfold FileSystem.bindSocket
  rw [free.address, ends]
  simp only [bind, Except.bind, unknown]
  rfl

/-- Only a free path is bound. -/
theorem FileSystem.isFree_of_bindSocket {endpoint : Endpoint} {socket : NodeId}
    (made : fs.bindSocket endpoint path = .ok (later, socket)) : fs.IsFree path := by
  unfold FileSystem.bindSocket at made
  cases address : checkAddress path with
  | error error => simp [address, bind, Except.bind] at made
  | ok =>
    cases ends : fs.ending path with
    | error error => simp [address, ends, bind, Except.bind] at made
    | ok ending =>
      rw [address, ends] at made
      cases ending with
      | unnamed => cases made
      | named dir name slash =>
        simp only [bind, Except.bind] at made
        cases known : fs.entry? dir name with
        | some child => simp [known] at made
        | none =>
          cases slash with
          | true => simp [known] at made
          | false => exact ⟨address, dir, name, ends, known⟩

/-- A socket that is made is the next node, under a name that its directory does not have yet. -/
theorem FileSystem.added_of_bindSocket {endpoint : Endpoint} {socket : NodeId}
    (made : fs.bindSocket endpoint path = .ok (later, socket)) :
    ∃ dir name, fs.ending path = .ok (.named dir name false) ∧ fs.entry? dir name = none ∧
      fs.IsDirectory dir ∧ later = (fs.addNode dir name (.socket endpoint)).1 ∧
      socket = fs.nodes.length := by
  obtain ⟨dir, name, ends, unknown, bound⟩ := (isFree_of_bindSocket made).bindSocket endpoint
  obtain ⟨-, -, -, -, -, directory, -⟩ := ending_eq_named.mp ends
  obtain ⟨parent, mode, entries, at_dir⟩ := directory
  rw [made] at bound
  have added := Except.ok.inj bound
  refine ⟨dir, name, ends, unknown, ⟨parent, mode, entries, at_dir⟩, congrArg Prod.fst added, ?_⟩
  exact (congrArg Prod.snd added).trans (congrArg Prod.snd (addNode_eq at_dir name _))

/-- A listener that has just been made owns its socket. -/
theorem Listener.owns_of_bindSocket {socket : NodeId}
    (made : fs.bindSocket .listening path = .ok (later, socket)) :
    Listener.Owns ⟨path, socket⟩ later := by
  have free := isFree_of_bindSocket made
  obtain ⟨dir, name, ends, unknown, ⟨parent, mode, entries, at_dir⟩, rfl, rfl⟩ :=
    added_of_bindSocket made
  exact ⟨free.address, node?_addNode_new at_dir name _, dir, name, (keeps_addNode dir name _).ending ends,
    entry_addNode_self at_dir name _ unknown⟩

/-- Making a listener leaves the others what they own, which is not the new socket. -/
theorem Listener.Owns.bindSocket {other : Listener} (owns : other.Owns fs) {endpoint : Endpoint}
    {socket : NodeId} (made : fs.bindSocket endpoint path = .ok (later, socket)) :
    other.Owns later ∧ other.socket ≠ socket := by
  obtain ⟨dir, name, -, -, -, rfl, rfl⟩ := added_of_bindSocket made
  exact ⟨owns.addNode dir name _, Nat.ne_of_lt (lt_length_of_node? owns.listening)⟩

/-- A socket at a path that is removed loses its name. -/
theorem FileSystem.SocketAt.remove {endpoint : Endpoint} (stale : fs.SocketAt path endpoint)
    (removed : fs.remove path = .ok later) :
    ∃ dir name id, fs.ending path = .ok (.named dir name false) ∧ fs.entry? dir name = some id ∧
      fs.node? id = some (.socket endpoint) ∧ later = fs.removeEntry dir name := by
  obtain ⟨id, found, at_id⟩ := stale
  unfold FileSystem.remove at removed
  cases ends : fs.ending path with
  | error error => simp [ends, bind, Except.bind] at removed
  | ok ending =>
    rw [ends] at removed
    cases ending with
    | unnamed => cases removed
    | named dir name slash =>
      simp only [bind, Except.bind] at removed
      cases known : fs.entry? dir name with
      | none => simp [known] at removed
      | some child =>
        rw [known] at removed
        cases slash with
        | true =>
          simp only at removed
          split at removed <;> cases removed
        | false =>
          have seen : fs.find path false = _ :=
            find_of_ending ends fun never => absurd never Bool.false_ne_true
          rw [known, found] at seen
          obtain rfl := Except.ok.inj seen
          simp only [at_id] at removed
          exact ⟨dir, name, id, rfl, known, at_id, (Except.ok.inj removed).symm⟩

/-- A socket at a path that is removed leaves its directory without its name. -/
theorem FileSystem.SocketAt.unnamed_remove {endpoint : Endpoint} (there : fs.SocketAt path endpoint)
    (removed : fs.remove path = .ok later) :
    ∃ dir name, later.ending path = .ok (.named dir name false) ∧ later.entry? dir name = none := by
  obtain ⟨dir, name, id, ends, known, at_id, rfl⟩ := there.remove removed
  have keeps : fs.Keeps (fs.removeEntry dir name) := by
    apply keeps_removeEntry
    intro child entry
    obtain rfl := Option.some.inj (known.symm.trans entry)
    exact ⟨endpoint, at_id⟩
  refine ⟨dir, name, keeps.ending ends, ?_⟩
  rw [entry_removeEntry, if_pos ⟨rfl, rfl⟩]

/-- A path that can be the address of a socket is free once the socket at it is removed. -/
theorem FileSystem.SocketAt.isFree_remove {endpoint : Endpoint} (there : fs.SocketAt path endpoint)
    (address : checkAddress path = .ok ()) (removed : fs.remove path = .ok later) :
    later.IsFree path := ⟨address, there.unnamed_remove removed⟩

/-- Removing a socket that nobody listens at leaves the listeners what they own. -/
theorem Listener.Owns.remove {listener : Listener} (owns : listener.Owns fs)
    (stale : fs.SocketAt path .closed) (removed : fs.remove path = .ok later) :
    listener.Owns later := by
  obtain ⟨dir, name, id, -, known, at_id, rfl⟩ := stale.remove removed
  refine owns.removeEntry fun child entry => ?_
  obtain rfl := Option.some.inj (known.symm.trans entry)
  refine ⟨⟨_, at_id⟩, ?_⟩
  rintro rfl
  cases owns.listening.symm.trans at_id

namespace Binding

/-- A binding that makes its socket, behind what has been logged so far. -/
def listenAt (fs : FileSystem) (path : String) (log : List LogEvent) :
    (Binding × List LogEvent) × FileSystem :=
  match fs.bindSocket .listening path with
  | .ok (later, socket) => (({ path, stage := .bound socket }, log), later)
  | .error error => (({ path, stage := .failed (.bind path error) }, log), fs)

/-- A binding that has failed and left the files as they were. -/
def failedAt (fs : FileSystem) (path : String) (error : ListenerError) (log : List LogEvent)
    (probed : Option NodeId) : (Binding × List LogEvent) × FileSystem :=
  ((⟨path, .failed error, probed⟩, log), fs)

/-- What a binding comes to that has found a socket at its path. -/
def probeAt (fs : FileSystem) (path : String) : (Binding × List LogEvent) × FileSystem :=
  match fs.connectTo path with
  | .ok socket => failedAt fs path (.inUse path) [] (some socket)
  | .error error =>
    if tellsStale error then
      match fs.remove path with
      | .error error => failedAt fs path (.cleanup path error) [removing path] none
      | .ok later => listenAt later path [removing path]
    else failedAt fs path (.probe path error) [] none

/-- What an attempt to bind a path comes to when nobody else does anything in between. -/
def attempt (fs : FileSystem) (path : String) : (Binding × List LogEvent) × FileSystem :=
  if fs.existsAt path then
    match fs.kindAt path with
    | .error error => failedAt fs path (.metadata path error) [] none
    | .ok .socket => probeAt fs path
    | .ok _ => failedAt fs path (.notSocket path) [] none
  else listenAt fs path []

section Steps

variable {ω : Type}

/-- A first step and the steps behind it. -/
theorem runFor_of_step {calls : SocketCalls ω} {binding next : Binding} {log : List LogEvent}
    {before after : ω} (steps : Nat) (first : (binding.step calls).run before = ((next, log), after)) :
    (runFor calls (steps + 1) binding).run before =
      let others := (runFor calls steps next).run after
      ((others.1.1, log ++ others.1.2), others.2) := by
  show (let first := (binding.step calls).run before
    let others := (runFor calls steps first.1.1).run first.2
    ((others.1.1, first.1.2 ++ others.1.2), others.2)) = _
  rw [first]

/-- A binding that takes no step any more stays as it is. -/
theorem runFor_of_over {calls : SocketCalls ω} {binding : Binding}
    (over_now : binding.step calls = pure (binding, [])) (steps : Nat) (state : ω) :
    (runFor calls steps binding).run state = ((binding, []), state) := by
  induction steps with
  | zero => rfl
  | succ steps ih =>
    have first : (binding.step calls).run state = ((binding, []), state) := by
      rw [over_now]
      rfl
    rw [runFor_of_step steps first, ih]
    rfl

end Steps

/-- A binding that has been refused stays so. -/
theorem runFor_failed (steps : Nat) (error : ListenerError) (probed : Option NodeId) :
    (runFor socketCalls steps ⟨path, .failed error, probed⟩).run fs =
      failedAt fs path error [] probed := runFor_of_over rfl steps fs

/-- A call that may change the files. -/
theorem run_calling {α : Type} (act : FileSystem → Except SystemError (FileSystem × α)) :
    StateT.run (calling act) fs =
      match act fs with
      | .ok (later, value) => (.ok value, later)
      | .error error => (.error error, fs) := rfl

/-- A binding that makes its socket. -/
theorem step_listening (fs : FileSystem) (path : String) (probed : Option NodeId) :
    (step socketCalls ⟨path, .listening, probed⟩).run fs =
      match fs.bindSocket .listening path with
      | .ok (later, socket) => ((⟨path, .unblocking socket, probed⟩, []), later)
      | .error error => ((⟨path, .failed (.bind path error), probed⟩, []), fs) := by
  cases made : fs.bindSocket .listening path <;>
    simp only [step, socketCalls, StateT.run_bind, run_calling, made] <;> rfl

/-- A binding that is about to make its socket. -/
theorem runFor_listening (steps : Nat) :
    (runFor socketCalls (steps + 2) ⟨path, .listening, none⟩).run fs = listenAt fs path [] := by
  have first := step_listening fs path none
  unfold listenAt
  cases made : fs.bindSocket .listening path with
  | error error =>
    rw [made] at first
    rw [runFor_of_step _ first, runFor_failed]
    rfl
  | ok result =>
    obtain ⟨later, socket⟩ := result
    rw [made] at first
    have second : (step socketCalls ⟨path, .unblocking socket, none⟩).run later =
        ((⟨path, .bound socket, none⟩, []), later) := rfl
    rw [runFor_of_step _ first, runFor_of_step _ second, runFor_of_over rfl]
    rfl

/-- A binding that sees whether something is at its path. -/
theorem step_looking (fs : FileSystem) (path : String) (probed : Option NodeId) :
    (step socketCalls ⟨path, .looking, probed⟩).run fs =
      ((⟨path, if fs.existsAt path then .inspecting else .listening, probed⟩, []), fs) := by
  show (if fs.existsAt path = true then _ else _ :
    StateM FileSystem (Binding × List LogEvent)).run fs = _
  split <;> rfl

/-- A binding that sees what is at its path. -/
theorem step_inspecting (fs : FileSystem) (path : String) (probed : Option NodeId) :
    (step socketCalls ⟨path, .inspecting, probed⟩).run fs =
      ((⟨path, match fs.kindAt path with
        | .error error => .failed (.metadata path error)
        | .ok .socket => .probing
        | .ok _ => .failed (.notSocket path), probed⟩, []), fs) := by
  show (match fs.kindAt path with
    | .error error => _
    | .ok .socket => _
    | .ok _ => _ : StateM FileSystem (Binding × List LogEvent)).run fs = _
  split <;> rfl

/-- A binding that sees whether somebody listens at its path. -/
theorem step_probing (fs : FileSystem) (path : String) (probed : Option NodeId) :
    (step socketCalls ⟨path, .probing, probed⟩).run fs =
      match fs.connectTo path with
      | .ok socket => ((⟨path, .failed (.inUse path), some socket⟩, []), fs)
      | .error error =>
        if tellsStale error then ((⟨path, .clearing, probed⟩, [removing path]), fs)
        else ((⟨path, .failed (.probe path error), probed⟩, []), fs) := by
  show (match fs.connectTo path with
    | .ok socket => _
    | .error error => if tellsStale error = true then _ else _ :
      StateM FileSystem (Binding × List LogEvent)).run fs = _
  split
  · rfl
  · split <;> rfl

/-- A binding that removes what is at its path. -/
theorem step_clearing (fs : FileSystem) (path : String) (probed : Option NodeId) :
    (step socketCalls ⟨path, .clearing, probed⟩).run fs =
      match fs.remove path with
      | .ok later => ((⟨path, .listening, probed⟩, []), later)
      | .error error => ((⟨path, .failed (.cleanup path error), probed⟩, []), fs) := by
  cases removed : fs.remove path with
  | error error =>
    simp only [step, socketCalls, StateT.run_bind, run_calling, removed]
    rfl
  | ok later =>
    simp only [step, socketCalls, StateT.run_bind, run_calling, removed]
    rfl

/-- A binding that has something logged behind the first step. -/
theorem listenAt_log (fs : FileSystem) (path : String) (log : List LogEvent) :
    ((((listenAt fs path []).1.1, log ++ (listenAt fs path []).1.2), (listenAt fs path []).2)) =
      listenAt fs path log := by
  unfold listenAt
  cases fs.bindSocket .listening path <;> simp

/-- A binding that has found a socket at its path. -/
theorem runFor_probing (steps : Nat) :
    (runFor socketCalls (steps + 4) ⟨path, .probing, none⟩).run fs = probeAt fs path := by
  have first := step_probing fs path none
  unfold probeAt
  cases probed : fs.connectTo path with
  | ok socket =>
    rw [probed] at first
    rw [runFor_of_step _ first, runFor_failed]
    rfl
  | error error =>
    simp only [probed] at first ⊢
    cases stale : tellsStale error with
    | false =>
      simp only [stale, Bool.false_eq_true, if_false] at first ⊢
      rw [runFor_of_step _ first, runFor_failed]
      rfl
    | true =>
      simp only [stale, if_true] at first ⊢
      have second := step_clearing fs path none
      cases removed : fs.remove path with
      | error error =>
        rw [removed] at second
        rw [runFor_of_step _ first, runFor_of_step _ second, runFor_failed]
        rfl
      | ok later =>
        rw [removed] at second
        rw [runFor_of_step _ first, runFor_of_step _ second, runFor_listening]
        exact listenAt_log later path [removing path]

/-- The attempt takes the steps of a binding. -/
theorem run_eq_attempt (fs : FileSystem) (path : String) :
    (run socketCalls path).run fs = attempt fs path := by
  have first := step_looking fs path none
  unfold run stepMax attempt
  cases there : fs.existsAt path with
  | false =>
    simp only [there, Bool.false_eq_true, if_false] at first
    rw [runFor_of_step _ first, runFor_listening]
    exact listenAt_log fs path []
  | true =>
    simp only [there, if_true] at first
    have second := step_inspecting fs path none
    rw [runFor_of_step _ first]
    cases seen : fs.kindAt path with
    | error error =>
      rw [seen] at second
      rw [runFor_of_step _ second, runFor_failed]
      rfl
    | ok kind =>
      rw [seen] at second
      cases kind with
      | socket =>
        rw [runFor_of_step _ second, runFor_probing]
        rfl
      | _ =>
        rw [runFor_of_step _ second, runFor_failed]
        rfl

/-- A path that cannot be the address of a socket does not tell whether somebody listens there. -/
theorem tellsStale_of_checkAddress {error : SystemError} (bad : checkAddress path = .error error) :
    tellsStale error = false := by
  unfold checkAddress at bad
  split at bad
  · obtain rfl := Except.error.inj bad
    rfl
  split at bad
  · obtain rfl := Except.error.inj bad
    rfl
  · cases bad

/-- A socket that is seen at a path is there. -/
theorem exists_socketAt (seen : fs.kindAt path = .ok .socket) :
    ∃ id endpoint, fs.find path false = .ok id ∧ fs.node? id = some (.socket endpoint) := by
  unfold kindAt at seen
  cases found : fs.find path false with
  | error error => simp [found, bind, Except.bind] at seen
  | ok id =>
    rw [found] at seen
    simp only [bind, Except.bind] at seen
    cases at_id : fs.node? id with
    | none => simp [at_id] at seen
    | some node =>
      rw [at_id] at seen
      cases node with
      | socket endpoint => exact ⟨id, endpoint, rfl, at_id⟩
      | _ => cases seen

/-- An attempt makes its socket where nothing is or where nobody listens, or finds somebody who
listens, or is refused for another reason and leaves the files as they were. -/
theorem attempt_cases (fs : FileSystem) (path : String) :
    (∃ cleared log, attempt fs path = listenAt cleared path log ∧
        (cleared = fs ∧ fs.existsAt path = false ∨
          fs.SocketAt path .closed ∧ fs.remove path = .ok cleared)) ∨
      (∃ id, attempt fs path = failedAt fs path (.inUse path) [] (some id) ∧
        fs.SocketAt path .listening ∧ checkAddress path = .ok ()) ∨
      ∃ error log, attempt fs path = failedAt fs path error log none ∧
        ∀ other, error ≠ .inUse other := by
  unfold attempt
  cases there : fs.existsAt path with
  | false => exact .inl ⟨fs, [], rfl, .inl ⟨rfl, rfl⟩⟩
  | true =>
    simp only [if_true]
    cases seen : fs.kindAt path with
    | error error => exact .inr (.inr ⟨_, _, rfl, nofun⟩)
    | ok kind =>
      cases kind with
      | socket =>
        obtain ⟨id, endpoint, found, at_id⟩ := exists_socketAt seen
        have connects := connectTo_eq found at_id
        simp only [probeAt]
        rw [connects]
        cases address : checkAddress path with
        | error error =>
          have unsure := tellsStale_of_checkAddress address
          refine .inr (.inr ⟨.probe path error, [], ?_, nofun⟩)
          simp [bind, Except.bind, unsure]
        | ok =>
          cases endpoint with
          | listening => exact .inr (.inl ⟨id, rfl, ⟨id, found, at_id⟩, rfl⟩)
          | datagram => exact .inr (.inr ⟨.probe path wrongType, [], rfl, nofun⟩)
          | closed =>
            have stale : tellsStale refused = true := rfl
            simp only [bind, Except.bind, stale, if_true]
            cases removed : fs.remove path with
            | error error => exact .inr (.inr ⟨_, _, rfl, nofun⟩)
            | ok cleared => exact .inl ⟨cleared, _, rfl, .inr ⟨⟨id, found, at_id⟩, rfl⟩⟩
      | _ => exact .inr (.inr ⟨_, _, rfl, nofun⟩)

end Binding

end ThresholdDaemon
