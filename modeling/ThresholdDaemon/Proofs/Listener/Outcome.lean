import ThresholdDaemon.Proofs.Listener.Binding

/-!
# What a failed attempt to bind leaves

Each call to the system may fail whatever the files are, and a probe may tell anything. An attempt
that fails leaves what was at its path, unless that was a socket whose probe told that nobody
listens; and one that binds leaves its own new socket there. Only an attempt that can neither use
nor remove the socket it has made leaves that, closed.
-/
namespace ThresholdDaemon

open FileSystem

variable {ω : Type} {calls : SocketCalls ω} {files : ω → FileSystem} {path : String}

/-- What a path names itself: the number of a node and the node. -/
def FileSystem.entryAt (fs : FileSystem) (path : String) :
    Except SystemError (NodeId × Option Node) :=
  (fs.find path false).map fun id => (id, fs.node? id)

/-- Nothing is at a path that ends at a name that its directory does not have. -/
theorem FileSystem.entryAt_of_unnamed {fs : FileSystem} {dir : NodeId} {name : String}
    (ends : fs.ending path = .ok (.named dir name false)) (unknown : fs.entry? dir name = none) :
    fs.entryAt path = .error absent := by
  have found : fs.find path false = _ :=
    find_of_ending ends fun never => absurd never Bool.false_ne_true
  unfold FileSystem.entryAt
  rw [found, unknown]
  rfl

/-- A socket that its listener has closed is still at the path. -/
theorem Listener.Owns.closed {listener : Listener} {fs : FileSystem} (owns : listener.Owns fs) :
    let closed := fs.closeSocket listener.socket
    closed.entryAt listener.path = .ok (listener.socket, some (.socket .closed)) ∧
      closed.SocketAt listener.path .closed := by
  intro closed
  obtain ⟨dir, name, ends, known⟩ := owns.named
  have still_ends := (keeps_closeSocket listener.socket).ending ends
  have still_known : closed.entry? dir name = some listener.socket := by
    rw [entry_closeSocket, known]
  have at_socket : closed.node? listener.socket = some (.socket .closed) := by
    show FileSystem.node? (fs.closeSocket listener.socket) listener.socket = _
    unfold FileSystem.closeSocket
    rw [owns.listening]
    exact node?_setNode_self owns.listening _
  have found : closed.find listener.path false = _ :=
    find_of_ending still_ends (fun never => absurd never Bool.false_ne_true)
  rw [still_known] at found
  refine ⟨?_, ⟨_, found, at_socket⟩⟩
  unfold FileSystem.entryAt
  rw [found]
  exact congrArg (fun node => Except.ok (listener.socket, node)) at_socket

/-- System calls that act on files. A call that succeeds does to the files what it should, and one
that fails leaves them as they are. Which calls succeed is up to the system, and so is what a probe
tells. -/
structure SocketCalls.ActsOn (calls : SocketCalls ω) (files : ω → FileSystem) : Prop where
  /-- To see whether something is at a path changes nothing. -/
  existsAt : ∀ path state, files ((calls.existsAt path).run state).2 = files state
  /-- To see what is at a path changes nothing. -/
  kindAt : ∀ path state, files ((calls.kindAt path).run state).2 = files state
  /-- The kind that is seen is that of what is there. -/
  kindAt_ok : ∀ path state kind, ((calls.kindAt path).run state).1 = .ok kind →
    (files state).kindAt path = .ok kind
  /-- A probe changes nothing. -/
  probe : ∀ path state, files ((calls.probe path).run state).2 = files state
  /-- What is removed is taken away. -/
  remove_ok : ∀ path state, ((calls.remove path).run state).1 = .ok () →
    (files state).remove path = .ok (files ((calls.remove path).run state).2)
  /-- What cannot be removed stays. -/
  remove_error : ∀ path state error, ((calls.remove path).run state).1 = .error error →
    files ((calls.remove path).run state).2 = files state
  /-- A socket that is made is a new one at a free path. -/
  listen_ok : ∀ path state socket, ((calls.listen path).run state).1 = .ok socket →
    (files state).bindSocket .listening path = .ok (files ((calls.listen path).run state).2, socket)
  /-- A socket that cannot be made leaves nothing. -/
  listen_error : ∀ path state error, ((calls.listen path).run state).1 = .error error →
    files ((calls.listen path).run state).2 = files state
  /-- How a socket waits is nothing that files tell. -/
  unblock : ∀ socket state, files ((calls.unblock socket).run state).2 = files state
  /-- A socket that is closed stays at its path. -/
  close : ∀ socket state,
    files ((calls.close socket).run state).2 = (files state).closeSocket socket

namespace Binding

/-- The states of an attempt that gives up the socket it has made: before it makes the socket, with
the socket, behind the call that fails, and with the socket closed. -/
structure GivesUp (calls : SocketCalls ω) (path : String) (before : ω) (socket : NodeId)
    (error : SystemError) (closed : ω) : Prop where
  /-- The socket is made. -/
  makes : ((calls.listen path).run before).1 = .ok socket
  /-- It cannot be kept from blocking. -/
  blocks : ((calls.unblock socket).run ((calls.listen path).run before).2).1 = .error error
  /-- It is closed. -/
  closes : closed = ((calls.close socket).run
    ((calls.unblock socket).run ((calls.listen path).run before).2).2).2

/-- A socket that is given up is closed at its path. -/
theorem GivesUp.closed (acts : calls.ActsOn files) {before after : ω} {socket : NodeId}
    {error : SystemError} (gives : GivesUp calls path before socket error after) :
    (files after).entryAt path = .ok (socket, some (.socket .closed)) ∧
      (files after).SocketAt path .closed := by
  have made := acts.listen_ok path before socket gives.makes
  have closed : files after =
      (files ((calls.listen path).run before).2).closeSocket socket := by
    rw [gives.closes, acts.close, acts.unblock]
  rw [closed]
  exact (Listener.owns_of_bindSocket made).closed

/-- An attempt that gives up its socket ends in a state in which it could not remove it. -/
def LeavesOwn (calls : SocketCalls ω) (path : String) (socket : NodeId) (error : SystemError)
    (last : ω) : Prop :=
  ∃ before closed refusal, GivesUp calls path before socket error closed ∧
    (calls.remove path).run closed = (.error refusal, last)

/-- What the probe of an attempt tells, if the attempt gets so far. -/
def probing (calls : SocketCalls ω) (path : String) (start : ω) : Except SystemError NodeId :=
  let seen := ((calls.existsAt path).run start).2
  ((calls.probe path).run ((calls.kindAt path).run seen).2).1

/-- A socket is at the path, and the probe tells that nobody listens. -/
structure FindsStale (calls : SocketCalls ω) (files : ω → FileSystem) (path : String) (start : ω) :
    Prop where
  /-- A socket is at the path. -/
  socket : ∃ endpoint, (files start).SocketAt path endpoint
  /-- The probe is refused, or finds nothing. -/
  stale : ∃ error, probing calls path start = .error error ∧ tellsStale error = true

/-- The files are those of the start, or a socket that nobody listens at has been removed. -/
def Clears (calls : SocketCalls ω) (files : ω → FileSystem) (path : String) (start : ω)
    (fs : FileSystem) : Prop :=
  fs = files start ∨ FindsStale calls files path start ∧ (files start).remove path = .ok fs

/-- How an attempt fails. -/
inductive Fails (calls : SocketCalls ω) (files : ω → FileSystem) (path : String) (start : ω) :
    ListenerError → ω → Prop
  /-- Nothing is changed. -/
  | kept {state : ω} (error : ListenerError) (same : files state = files start) :
    Fails calls files path start error state
  /-- The socket cannot be made once another one is removed. -/
  | cleared {state : ω} (error : SystemError) (stale : FindsStale calls files path start)
    (removed : (files start).remove path = .ok (files state)) :
    Fails calls files path start (.bind path error) state
  /-- The socket is given up. -/
  | givenUp {before closed : ω} {socket : NodeId} {error : SystemError}
    (clears : Clears calls files path start (files before))
    (gives : GivesUp calls path before socket error closed) :
    Fails calls files path start (.nonBlocking error) ((calls.remove path).run closed).2

/-- What is so when an attempt comes to a stage. -/
def Reaches (calls : SocketCalls ω) (files : ω → FileSystem) (path : String) (start : ω) :
    Stage → ω → Prop
  | .looking, state => state = start
  | .inspecting, state => state = ((calls.existsAt path).run start).2
  | .probing, state =>
    state = ((calls.kindAt path).run ((calls.existsAt path).run start).2).2 ∧
      (files start).kindAt path = .ok .socket
  | .clearing, state => files state = files start ∧ FindsStale calls files path start
  | .listening, state => Clears calls files path start (files state)
  | .unblocking socket, state => ∃ before, Clears calls files path start (files before) ∧
    ((calls.listen path).run before) = (.ok socket, state)
  | .yielding socket error, state => ∃ before, Clears calls files path start (files before) ∧
    GivesUp calls path before socket error ((calls.close socket).run state).2
  | .bound socket, state => ∃ fs, Clears calls files path start fs ∧
    fs.bindSocket .listening path = .ok (files state, socket)
  | .failed error, state => Fails calls files path start error state

/-- The most steps that are left to an attempt. -/
def Stage.left : Stage → Nat
  | .looking => 7
  | .inspecting => 6
  | .probing => 5
  | .clearing => 4
  | .listening => 3
  | .unblocking _ => 2
  | .yielding _ _ => 1
  | .bound _ | .failed _ => 0

/-- A step of an attempt leads from a stage to a later one, as it should. -/
def Leads (calls : SocketCalls ω) (files : ω → FileSystem) (path : String) (start : ω) (stage : Stage)
    (state : ω) (probed : Option NodeId) : Prop :=
  ∃ next log found after,
    (step calls ⟨path, stage, probed⟩).run state = ((⟨path, next, found⟩, log), after) ∧
      Reaches calls files path start next after ∧ next.left ≤ stage.left - 1

section Steps

variable {start state : ω} (acts : calls.ActsOn files) (probed : Option NodeId)

include acts

/-- An attempt sees whether something is at its path. -/
theorem leads_looking : Leads calls files path start .looking start probed := by
  have same := acts.existsAt path start
  cases found : (calls.existsAt path).run start with
  | mk there after =>
    rw [found] at same
    cases there with
    | true =>
      refine ⟨.inspecting, [], probed, after, ?_, (congrArg Prod.snd found).symm, Nat.le_refl 6⟩
      simp only [step, StateT.run_bind, found]
      rfl
    | false =>
      refine ⟨.listening, [], probed, after, ?_, .inl same, by decide⟩
      simp only [step, StateT.run_bind, found]
      rfl

/-- An attempt goes on from something at its path only if it is a socket. -/
theorem leads_inspecting :
    Leads calls files path start .inspecting ((calls.existsAt path).run start).2 probed := by
  have same := (acts.kindAt path _).trans (acts.existsAt path start)
  have told := acts.kindAt_ok path ((calls.existsAt path).run start).2
  rw [acts.existsAt path start] at told
  cases seen : (calls.kindAt path).run ((calls.existsAt path).run start).2 with
  | mk kind after =>
    rw [seen] at same told
    cases kind with
    | error error =>
      refine ⟨.failed (.metadata path error), [], probed, after, ?_, .kept _ same, Nat.zero_le _⟩
      simp only [step, StateT.run_bind, seen]
      rfl
    | ok kind =>
      cases kind with
      | socket =>
        have reached : after = ((calls.kindAt path).run ((calls.existsAt path).run start).2).2 :=
          (congrArg Prod.snd seen).symm
        refine ⟨.probing, [], probed, after, ?_, ⟨reached, told _ rfl⟩, Nat.le_refl 5⟩
        simp only [step, StateT.run_bind, seen]
        rfl
      | _ =>
        refine ⟨.failed (.notSocket path), [], probed, after, ?_, .kept _ same, Nat.zero_le _⟩
        simp only [step, StateT.run_bind, seen]
        rfl

/-- An attempt goes on from a socket at its path only if its probe tells that nobody listens. -/
theorem leads_probing (socket : (files start).kindAt path = .ok .socket) :
    Leads calls files path start .probing
      ((calls.kindAt path).run ((calls.existsAt path).run start).2).2 probed := by
  have same := ((acts.probe path _).trans (acts.kindAt path _)).trans (acts.existsAt path start)
  cases tells : (calls.probe path).run
      ((calls.kindAt path).run ((calls.existsAt path).run start).2).2 with
  | mk answer after =>
    rw [tells] at same
    cases answer with
    | ok listener =>
      refine ⟨.failed (.inUse path), [], some listener, after, ?_, .kept _ same, Nat.zero_le _⟩
      simp only [step, StateT.run_bind, tells]
      rfl
    | error error =>
      cases stale : tellsStale error with
      | true =>
        obtain ⟨id, endpoint, found, at_id⟩ := exists_socketAt socket
        have finds : FindsStale calls files path start :=
          ⟨⟨endpoint, id, found, at_id⟩, error, congrArg Prod.fst tells, stale⟩
        refine ⟨.clearing, [removing path], probed, after, ?_, ⟨same, finds⟩, Nat.le_refl 4⟩
        simp only [step, StateT.run_bind, tells]
        show StateT.run (if tellsStale error = true then _ else _) after = _
        rw [if_pos stale]
        rfl
      | false =>
        refine ⟨.failed (.probe path error), [], probed, after, ?_, .kept _ same, Nat.zero_le _⟩
        simp only [step, StateT.run_bind, tells]
        show StateT.run (if tellsStale error = true then _ else _) after = _
        rw [if_neg (by rw [stale]; exact Bool.false_ne_true)]
        rfl

/-- An attempt goes on from a socket that nobody listens at once that is removed. -/
theorem leads_clearing (same : files state = files start)
    (finds : FindsStale calls files path start) :
    Leads calls files path start .clearing state probed := by
  have taken := acts.remove_ok path state
  have stays := acts.remove_error path state
  cases removed : (calls.remove path).run state with
  | mk result after =>
    rw [removed] at taken stays
    cases result with
    | ok =>
      refine ⟨.listening, [], probed, after, ?_, .inr ⟨finds, same ▸ taken rfl⟩, Nat.le_refl 3⟩
      simp only [step, StateT.run_bind, removed]
      rfl
    | error error =>
      have kept := (stays error rfl).trans same
      refine ⟨.failed (.cleanup path error), [], probed, after, ?_, .kept _ kept, Nat.zero_le _⟩
      simp only [step, StateT.run_bind, removed]
      rfl

/-- An attempt makes its socket, or leaves nothing of it. -/
theorem leads_listening (clears : Clears calls files path start (files state)) :
    Leads calls files path start .listening state probed := by
  have stays := acts.listen_error path state
  cases made : (calls.listen path).run state with
  | mk result after =>
    rw [made] at stays
    cases result with
    | ok socket =>
      refine ⟨.unblocking socket, [], probed, after, ?_, ⟨state, clears, made⟩, Nat.le_refl 2⟩
      simp only [step, StateT.run_bind, made]
      rfl
    | error error =>
      have same := stays error rfl
      have fails : Fails calls files path start (.bind path error) after := by
        rcases clears with kept | ⟨finds, removed⟩
        · exact .kept _ (same.trans kept)
        · exact .cleared error finds (same ▸ removed)
      refine ⟨.failed (.bind path error), [], probed, after, ?_, fails, Nat.zero_le _⟩
      simp only [step, StateT.run_bind, made]
      rfl

/-- An attempt has bound its path once its socket is kept from blocking. -/
theorem leads_unblocking {before : ω} {socket : NodeId}
    (clears : Clears calls files path start (files before))
    (made : (calls.listen path).run before = (.ok socket, state)) :
    Leads calls files path start (.unblocking socket) state probed := by
  have listens : ((calls.listen path).run before).1 = .ok socket := congrArg Prod.fst made
  have behind : ((calls.listen path).run before).2 = state := congrArg Prod.snd made
  cases kept : (calls.unblock socket).run state with
  | mk result after =>
    cases result with
    | ok =>
      have same := acts.unblock socket state
      have bound := acts.listen_ok path before socket listens
      rw [kept] at same
      rw [behind, ← same] at bound
      refine ⟨.bound socket, [], probed, after, ?_, ⟨_, clears, bound⟩, Nat.zero_le _⟩
      simp only [step, StateT.run_bind, kept]
      rfl
    | error error =>
      have gives : GivesUp calls path before socket error ((calls.close socket).run after).2 := by
        refine ⟨listens, ?_, ?_⟩
        · rw [behind, kept]
        · rw [behind, kept]
      refine ⟨.yielding socket error, [], probed, after, ?_, ⟨before, clears, gives⟩, Nat.le_refl 1⟩
      simp only [step, StateT.run_bind, kept]
      rfl

/-- A step leads from a stage that an attempt reaches to a later one. -/
theorem Reaches.leads {stage : Stage} (reaches : Reaches calls files path start stage state) :
    Leads calls files path start stage state probed := by
  cases stage with
  | looking =>
    obtain rfl := reaches
    exact leads_looking acts probed
  | inspecting =>
    obtain rfl := reaches
    exact leads_inspecting acts probed
  | probing =>
    obtain ⟨rfl, socket⟩ := reaches
    exact leads_probing acts probed socket
  | clearing => exact leads_clearing acts probed reaches.1 reaches.2
  | listening => exact leads_listening acts probed reaches
  | unblocking socket =>
    obtain ⟨before, clears, made⟩ := reaches
    exact leads_unblocking acts probed clears made
  | yielding socket error =>
    obtain ⟨before, clears, gives⟩ := reaches
    exact ⟨.failed (.nonBlocking error), [], probed, _, rfl, .givenUp clears gives, Nat.zero_le _⟩
  | bound socket => exact ⟨.bound socket, [], probed, state, rfl, reaches, Nat.zero_le _⟩
  | failed error => exact ⟨.failed error, [], probed, state, rfl, reaches, Nat.zero_le _⟩

/-- The steps of an attempt lead to later and later stages. -/
theorem Reaches.runFor {stage : Stage} (steps : Nat)
    (reaches : Reaches calls files path start stage state) :
    ∃ next log found after,
      (runFor calls steps ⟨path, stage, probed⟩).run state = ((⟨path, next, found⟩, log), after) ∧
        Reaches calls files path start next after ∧ next.left ≤ stage.left - steps := by
  induction steps generalizing stage state probed with
  | zero => exact ⟨stage, [], probed, state, rfl, reaches, Nat.le_refl _⟩
  | succ steps ih =>
    obtain ⟨next, log, found, after, stepped, reached, less⟩ := reaches.leads acts probed
    obtain ⟨last, more, finally_found, final, ran, ends, fewer⟩ := ih found reached
    refine ⟨last, log ++ more, finally_found, final, ?_, ends, by omega⟩
    rw [runFor_of_step steps stepped, ran]

end Steps

/-- There are as many nodes where a socket is made as before. -/
theorem Clears.length_nodes {start : ω} {fs : FileSystem}
    (clears : Clears calls files path start fs) :
    fs.nodes.length = (files start).nodes.length := by
  rcases clears with rfl | ⟨⟨⟨endpoint, there⟩, -⟩, removed⟩
  · rfl
  · obtain ⟨dir, name, id, -, -, -, rfl⟩ := there.remove removed
    unfold removeEntry
    split
    · exact List.length_set
    · rfl

/-- A socket that is made on the files of the start, or once a socket is removed, is a new one, and
nothing was at its path otherwise. -/
theorem Clears.new {start : ω} {fs later : FileSystem} {socket : NodeId}
    (clears : Clears calls files path start fs)
    (made : fs.bindSocket .listening path = .ok (later, socket)) :
    (files start).node? socket = none ∧
      ((files start).entryAt path = .error absent ∨ FindsStale calls files path start) := by
  obtain ⟨dir, name, ends, unknown, -, -, rfl⟩ := added_of_bindSocket made
  constructor
  · rw [clears.length_nodes]
    exact List.getElem?_eq_none (Nat.le_refl _)
  · rcases clears with rfl | ⟨stale, -⟩
    · exact .inl (entryAt_of_unnamed ends unknown)
    · exact .inr stale

/-- What a failed attempt leaves at its path: what was there before, or nothing where nobody listened
at a socket, or its own closed socket that it could not remove. -/
theorem Fails.leaves (acts : calls.ActsOn files) {start state : ω} {error : ListenerError}
    (fails : Fails calls files path start error state) :
    (files state).entryAt path = (files start).entryAt path ∨
      (FindsStale calls files path start ∧ (files state).entryAt path = .error absent ∧
        ((∃ cause, error = .bind path cause) ∨ ∃ cause, error = .nonBlocking cause)) ∨
      ∃ socket cause, error = .nonBlocking cause ∧ LeavesOwn calls path socket cause state ∧
        (files state).entryAt path = .ok (socket, some (.socket .closed)) ∧
        (files start).node? socket = none ∧
        ((files start).entryAt path = .error absent ∨ FindsStale calls files path start) := by
  cases fails with
  | kept error same => exact .inl (congrArg (·.entryAt path) same)
  | cleared error stale removed =>
    obtain ⟨endpoint, there⟩ := stale.socket
    obtain ⟨dir, name, ends, unknown⟩ := there.unnamed_remove removed
    exact .inr (.inl ⟨stale, entryAt_of_unnamed ends unknown, .inl ⟨error, rfl⟩⟩)
  | @givenUp before closed socket error clears gives =>
    obtain ⟨new, before_free⟩ := clears.new (acts.listen_ok path before socket gives.makes)
    obtain ⟨left, there⟩ := gives.closed acts
    have taken := acts.remove_ok path closed
    have stays := acts.remove_error path closed
    cases removed : (calls.remove path).run closed with
    | mk result last =>
      rw [removed] at taken stays
      cases result with
      | error refusal =>
        rw [← stays refusal rfl] at left
        exact .inr (.inr ⟨socket, error, rfl, ⟨before, closed, refusal, gives, removed⟩, left, new,
          before_free⟩)
      | ok =>
        obtain ⟨dir, name, ends, unknown⟩ := there.unnamed_remove (taken rfl)
        have gone := entryAt_of_unnamed ends unknown
        rcases before_free with free | stale
        · exact .inl (gone.trans free.symm)
        · exact .inr (.inl ⟨stale, gone, .inr ⟨error, rfl⟩⟩)

end Binding

end ThresholdDaemon
