import Mathlib.Data.List.Induction
import ThresholdDaemon.Proofs.Listener.Binding

/-!
# Attempts to bind one path at a time

Several attempts to bind one path take their steps in any order. Between the step in which an
attempt finds that nobody listens at the path and the step in which it removes what is there, another
may make its socket, which is removed then although its owner listens. This is the only way in which
an attempt takes away the socket of another; an order without it leaves at most one of them bound.
If several attempts start where nobody listens at a socket, some order does it, and otherwise none.
-/
namespace ThresholdDaemon

open FileSystem

variable {fs later : FileSystem} {path : String}

/-- The path has a socket that nobody listens at and that is removed by whoever binds the path. -/
structure FileSystem.IsStale (fs : FileSystem) (path : String) : Prop where
  /-- Nobody listens at the socket. -/
  closed : fs.SocketAt path .closed
  /-- The path can be the address of a socket. -/
  address : checkAddress path = .ok ()
  /-- The socket can be removed. -/
  removable : ∃ later, fs.remove path = .ok later

namespace Binding

/-- The socket that has been made and listens. -/
def Stage.held? : Stage → Option NodeId
  | .unblocking socket | .yielding socket _ | .bound socket => some socket
  | _ => none

/-- What one step of an attempt to bind a path may do, from some files to others. -/
inductive Moves (path : String) (fs : FileSystem) : Stage → FileSystem → Stage → Prop
  /-- Something is at the path. -/
  | finds (there : fs.existsAt path = true) : Moves path fs .looking fs .inspecting
  /-- Nothing is at the path. -/
  | misses (absent : fs.existsAt path = false) : Moves path fs .looking fs .listening
  /-- A socket is at the path. -/
  | inspects (seen : fs.kindAt path = .ok .socket) : Moves path fs .inspecting fs .probing
  /-- Nobody listens at the path. -/
  | doubts {error : SystemError} (probed : fs.connectTo path = .error error)
      (stale : tellsStale error = true) : Moves path fs .probing fs .clearing
  /-- What is at the path is removed. -/
  | clears {later : FileSystem} (removed : fs.remove path = .ok later) :
      Moves path fs .clearing later .listening
  /-- The socket is made. -/
  | makes {later : FileSystem} {socket : NodeId}
      (made : fs.bindSocket .listening path = .ok (later, socket)) :
      Moves path fs .listening later (.unblocking socket)
  /-- The socket is kept from blocking. -/
  | unblocks (socket : NodeId) : Moves path fs (.unblocking socket) fs (.bound socket)
  /-- The attempt fails. -/
  | fails {before : Stage} (error : ListenerError) (free : before.held? = none) :
      Moves path fs before fs (.failed error)
  /-- The attempt is over. -/
  | rests (socket : NodeId) : Moves path fs (.bound socket) fs (.bound socket)

/-- Each step of an attempt is one of these moves. -/
theorem step_moves (binding : Binding) (fs : FileSystem)
    (keeps : ∀ socket error, binding.stage ≠ .yielding socket error) :
    let after := (binding.step socketCalls).run fs
    after.1.1.path = binding.path ∧
      Moves binding.path fs binding.stage after.2 after.1.1.stage := by
  obtain ⟨path, stage, probed⟩ := binding
  cases stage with
  | looking =>
    rw [step_looking]
    cases there : fs.existsAt path with
    | true => exact ⟨rfl, .finds there⟩
    | false => exact ⟨rfl, .misses there⟩
  | inspecting =>
    rw [step_inspecting]
    cases seen : fs.kindAt path with
    | error error => exact ⟨rfl, .fails _ rfl⟩
    | ok kind =>
      cases kind with
      | socket => exact ⟨rfl, .inspects seen⟩
      | _ => exact ⟨rfl, .fails _ rfl⟩
  | probing =>
    rw [step_probing]
    cases connects : fs.connectTo path with
    | ok socket => exact ⟨rfl, .fails _ rfl⟩
    | error error =>
      cases stale : tellsStale error with
      | true => simpa [stale] using .doubts connects stale
      | false => simpa [stale] using .fails _ rfl
  | clearing =>
    rw [step_clearing]
    cases removed : fs.remove path with
    | error error => exact ⟨rfl, .fails _ rfl⟩
    | ok later => exact ⟨rfl, .clears removed⟩
  | listening =>
    rw [step_listening]
    cases made : fs.bindSocket .listening path with
    | error error => exact ⟨rfl, .fails _ rfl⟩
    | ok result => exact ⟨rfl, .makes made⟩
  | unblocking socket => exact ⟨rfl, .unblocks socket⟩
  | yielding socket error => exact absurd rfl (keeps socket error)
  | bound socket => exact ⟨rfl, .rests socket⟩
  | failed error => exact ⟨rfl, .fails error rfl⟩

/-- No move gives a socket up. -/
theorem Moves.not_yielding {before after : Stage} (moves : Moves path fs before later after) :
    ∀ socket error, after ≠ .yielding socket error := by
  intro socket error yields
  cases moves <;> cases yields

/-- A move leaves the files and what is held alone, removes what is at the path, or makes a
socket. -/
theorem Moves.held {before after : Stage} (moves : Moves path fs before later after) :
    (later = fs ∧ after.held? = before.held?) ∨
      (before = .clearing ∧ fs.remove path = .ok later ∧ after.held? = none) ∨
      ∃ socket, fs.bindSocket .listening path = .ok (later, socket) ∧
        before.held? = none ∧ after.held? = some socket := by
  cases moves with
  | clears removed => exact .inr (.inl ⟨rfl, removed, rfl⟩)
  | makes made => exact .inr (.inr ⟨_, made, rfl, rfl⟩)
  | fails error free => exact .inl ⟨rfl, free.symm⟩
  | _ => exact .inl ⟨rfl, rfl⟩

/-- What an attempt goes by is so. -/
def Stage.Grounded (fs : FileSystem) (path : String) : Stage → Prop
  | .probing => fs.kindAt path = .ok .socket
  | .clearing => fs.SocketAt path .closed ∧ checkAddress path = .ok ()
  | _ => True

/-- A socket that nobody listens at is the only one that is about to be removed. -/
theorem closed_of_tellsStale {error : SystemError} (seen : fs.kindAt path = .ok .socket)
    (probed : fs.connectTo path = .error error) (stale : tellsStale error = true) :
    fs.SocketAt path .closed ∧ checkAddress path = .ok () := by
  obtain ⟨id, endpoint, found, at_id⟩ := exists_socketAt seen
  rw [connectTo_eq found at_id] at probed
  cases address : checkAddress path with
  | error bad =>
    rw [address] at probed
    obtain rfl := Except.error.inj probed
    simp [tellsStale_of_checkAddress address] at stale
  | ok =>
    rw [address] at probed
    cases endpoint with
    | listening => cases probed
    | datagram =>
      obtain rfl := Except.error.inj probed
      cases stale
    | closed => exact ⟨⟨id, found, at_id⟩, rfl⟩

/-- A move goes by what is at the path. -/
theorem Moves.grounded {before after : Stage} (moves : Moves path fs before later after)
    (grounded : before.Grounded fs path) : after.Grounded fs path := by
  cases moves with
  | inspects seen => exact seen
  | doubts probed stale => exact closed_of_tellsStale grounded probed stale
  | rests => exact grounded
  | _ => trivial

/-- Whoever is about to remove a socket anew has not been able to connect to it. -/
theorem Moves.refused_of_clearing {before after : Stage}
    (moves : Moves path fs before later after) (clearing : after = .clearing) :
    ∃ error, fs.connectTo path = .error error := by
  cases moves with
  | doubts probed => exact ⟨_, probed⟩
  | _ => cases clearing

/-- An attempt comes to remove a socket that nobody listens at. -/
theorem runFor_clearing (stale : fs.IsStale path) :
    (runFor socketCalls 3 { path }).run fs = ((⟨path, .clearing, none⟩, [removing path]), fs) := by
  obtain ⟨there, seen⟩ := stale.closed.seen
  have first := step_looking fs path none
  rw [if_pos there] at first
  have second := step_inspecting fs path none
  rw [seen] at second
  have third := step_probing fs path none
  rw [stale.closed.refuses stale.address] at third
  rw [runFor_of_step _ first, runFor_of_step _ second, runFor_of_step _ third]
  rfl

/-- An attempt that removes a socket makes its own and is bound. -/
theorem runFor_bound {endpoint : Endpoint} (there : fs.SocketAt path endpoint)
    (address : checkAddress path = .ok ()) (removed : fs.remove path = .ok later) :
    ∃ socket made, Listener.Owns ⟨path, socket⟩ made ∧
      (runFor socketCalls 3 ⟨path, .clearing, none⟩).run fs =
        ((⟨path, .bound socket, none⟩, []), made) := by
  obtain ⟨dir, name, -, -, bound⟩ := (there.isFree_remove address removed).bindSocket .listening
  refine ⟨_, _, Listener.owns_of_bindSocket bound, ?_⟩
  have first := step_clearing fs path none
  rw [removed] at first
  have second := step_listening later path none
  rw [bound] at second
  rw [runFor_of_step _ first, runFor_of_step _ second]
  rfl

end Binding

/-- Attempts to bind a path, which take their steps one at a time. -/
structure Race where
  /-- The files. -/
  files : FileSystem
  /-- The attempts, each at the place of its number. -/
  attempts : List Binding

namespace Race

variable {race : Race} {index other : Nat} {order : List Nat} {binding : Binding} {socket : NodeId}

/-- Attempts that have done nothing yet. -/
def start (files : FileSystem) (path : String) (count : Nat) : Race :=
  { files, attempts := List.replicate count { path } }

/-- One attempt takes its next step. -/
def step (race : Race) (index : Nat) : Race :=
  match race.attempts[index]? with
  | none => race
  | some binding =>
    let after := (binding.step socketCalls).run race.files
    { files := after.2, attempts := race.attempts.set index after.1.1 }

/-- The attempts take their steps in an order. -/
def run (race : Race) (order : List Nat) : Race := order.foldl step race

/-- An attempt has made a socket and listens at it. -/
def Holds (race : Race) (index : Nat) (socket : NodeId) : Prop :=
  ∃ binding, race.attempts[index]? = some binding ∧ binding.stage.held? = some socket

/-- The next step of an attempt takes the socket that another listens at from the path. -/
def Steals (path : String) (race : Race) (index : Nat) : Prop :=
  ∃ other socket, other ≠ index ∧ race.Holds other socket ∧
    race.files.find path false = .ok socket ∧ (race.step index).files.find path false ≠ .ok socket

/-- An attempt is about to remove what it has found without a listener, and another listens by
now. -/
def Overlooks (race : Race) (index : Nat) : Prop :=
  (∃ binding, race.attempts[index]? = some binding ∧ binding.stage = .clearing) ∧
    ∃ other socket, other ≠ index ∧ race.Holds other socket

/-- No step of an order is a bad one. -/
def Never (race : Race) (bad : Race → Nat → Prop) (order : List Nat) : Prop :=
  ∀ before index behind, order = before ++ index :: behind → ¬ bad (race.run before) index

/-- At most one attempt has bound the path. -/
def HasOneWinner (race : Race) : Prop :=
  ∀ (first second : Nat) (binding other : Binding) (listener another : Listener),
    race.attempts[first]? = some binding → race.attempts[second]? = some other →
      binding.result = .ok listener → other.result = .ok another → first = second

@[simp] theorem run_append (race : Race) (first second : List Nat) :
    race.run (first ++ second) = (race.run first).run second := List.foldl_append

/-- A bad step is the last one of an order or before it. -/
theorem never_concat {bad : Race → Nat → Prop} :
    race.Never bad (order ++ [index]) ↔ race.Never bad order ∧ ¬ bad (race.run order) index := by
  constructor
  · intro never
    refine ⟨fun before other behind split => ?_, never order index [] rfl⟩
    exact never before other (behind ++ [index]) (by simp [split])
  · rintro ⟨never, good⟩ before other behind split
    rcases List.eq_nil_or_concat behind with rfl | ⟨front, last, rfl⟩
    · obtain ⟨rfl, alike⟩ := List.append_inj' split rfl
      obtain rfl := List.head_eq_of_cons_eq alike
      exact good
    · have whole : order ++ [index] = (before ++ other :: front) ++ [last] := by simpa using split
      exact never before other front (List.append_inj_left' whole rfl)

/-- A step of an attempt. -/
theorem step_eq (known : race.attempts[index]? = some binding) {next : Binding}
    {log : List LogEvent} {later : FileSystem}
    (steps : (binding.step socketCalls).run race.files = ((next, log), later)) :
    race.step index = { files := later, attempts := race.attempts.set index next } := by
  unfold step
  rw [known]
  simp only [steps]

/-- What one attempt does while no other takes a step. -/
theorem run_replicate {steps : Nat} (known : race.attempts[index]? = some binding) {next : Binding}
    {log : List LogEvent} {later : FileSystem}
    (runs : (Binding.runFor socketCalls steps binding).run race.files = ((next, log), later)) :
    race.run (List.replicate steps index) =
      { files := later, attempts := race.attempts.set index next } := by
  induction steps generalizing race binding log with
  | zero =>
    cases runs
    obtain ⟨inside, rfl⟩ := List.getElem?_eq_some_iff.mp known
    show race = ⟨race.files, race.attempts.set index race.attempts[index]⟩
    rw [List.set_getElem_self]
  | succ steps ih =>
    rcases first : (binding.step socketCalls).run race.files with ⟨⟨second, logged⟩, between⟩
    rcases rest : (Binding.runFor socketCalls steps second).run between with ⟨⟨final, more⟩, after⟩
    rw [Binding.runFor_of_step steps first, rest] at runs
    cases runs
    have there : (race.attempts.set index second)[index]? = some second := by
      obtain ⟨inside, -⟩ := List.getElem?_eq_some_iff.mp known
      simp [inside]
    show (race.step index).run (List.replicate steps index) = _
    rw [step_eq known first, ih there rest, List.set_set]

/-! ### What every order keeps -/

/-- All attempts are for one path, and none gives its socket up. -/
def Sound (path : String) (race : Race) : Prop :=
  ∀ (index : Nat) (binding : Binding), race.attempts[index]? = some binding →
    binding.path = path ∧ ∀ socket error, binding.stage ≠ .yielding socket error

/-- A step is a move of one attempt, or there is no such attempt. -/
theorem Sound.step_cases (sound : race.Sound path) (index : Nat) :
    race.step index = race ∨
      ∃ binding next : Binding, race.attempts[index]? = some binding ∧
        (race.step index).attempts = race.attempts.set index next ∧ next.path = path ∧
        Binding.Moves path race.files binding.stage (race.step index).files next.stage := by
  unfold step
  cases known : race.attempts[index]? with
  | none => exact .inl rfl
  | some binding =>
    obtain ⟨same, keeps⟩ := sound index binding known
    obtain ⟨place, moves⟩ := binding.step_moves race.files keeps
    rw [same] at place moves
    exact .inr ⟨binding, _, rfl, rfl, place, moves⟩

/-- What the attempts are once one of them has become another. -/
theorem getElem?_set {attempts : List Binding} {next : Binding}
    (known : attempts[index]? = some binding) (other : Nat) :
    (attempts.set index next)[other]? = if other = index then some next else attempts[other]? := by
  obtain ⟨inside, -⟩ := List.getElem?_eq_some_iff.mp known
  by_cases same : other = index
  · subst same
    simp [inside]
  · simp [same, List.getElem?_set_ne (Ne.symm same)]

/-- Attempts stay sound. -/
theorem Sound.step (sound : race.Sound path) (index : Nat) : (race.step index).Sound path := by
  rcases sound.step_cases index with idle | ⟨binding, next, known, after, place, moves⟩
  · rwa [idle]
  · intro other changed member
    rw [after, getElem?_set known] at member
    split at member
    · obtain rfl := Option.some.inj member
      exact ⟨place, moves.not_yielding⟩
    · exact sound other changed member

/-- Attempts that have done nothing yet are sound. -/
theorem sound_start (files : FileSystem) (path : String) (count : Nat) :
    (start files path count).Sound path := by
  intro index binding known
  obtain rfl := List.eq_of_mem_replicate (List.mem_of_getElem? known)
  exact ⟨rfl, nofun⟩

/-- Attempts are sound after every order. -/
theorem Sound.run (sound : race.Sound path) (order : List Nat) : (race.run order).Sound path := by
  induction order generalizing race with
  | nil => exact sound
  | cons index order ih => exact ih (sound.step index)

/-- What is held after a step. -/
theorem holds_step {next : Binding} (known : race.attempts[index]? = some binding)
    (after : (race.step index).attempts = race.attempts.set index next) :
    (race.step index).Holds other socket ↔
      if other = index then next.stage.held? = some socket else race.Holds other socket := by
  unfold Holds
  rw [after, getElem?_set known]
  split <;> simp

/-! ### Orders in which nobody is overlooked -/

/-- Whoever holds a socket owns the path, and only one attempt does. -/
structure Calm (path : String) (race : Race) : Prop where
  /-- A socket that is held is at the path. -/
  owns : ∀ index socket, race.Holds index socket → Listener.Owns ⟨path, socket⟩ race.files
  /-- Only one attempt holds a socket. -/
  single : ∀ index other socket another, race.Holds index socket → race.Holds other another →
    index = other

/-- Attempts that have done nothing yet hold nothing. -/
theorem not_holds_start (files : FileSystem) (path : String) (count index : Nat)
    (socket : NodeId) : ¬ (start files path count).Holds index socket := by
  rintro ⟨binding, known, held⟩
  obtain rfl := List.eq_of_mem_replicate (List.mem_of_getElem? known)
  cases held

/-- Where a socket is made, nobody has held one. -/
theorem Calm.not_holds (calm : race.Calm path) (free : race.files.IsFree path) (index : Nat)
    (socket : NodeId) : ¬ race.Holds index socket := by
  intro holds
  cases (free.find false).symm.trans ((calm.owns index socket holds).find false)

/-- A step that overlooks nobody leaves the attempts calm. -/
theorem Calm.step (calm : race.Calm path) (sound : race.Sound path)
    (careful : ¬ race.Overlooks index) : (race.step index).Calm path := by
  rcases sound.step_cases index with idle | ⟨binding, next, known, after, -, moves⟩
  · rwa [idle]
  rcases moves.held with ⟨same, held⟩ | ⟨clearing, -, held⟩ | ⟨made, bound, -, held⟩
  · -- the files and the sockets that are held are the same as before
    have keeps : ∀ other socket, (race.step index).Holds other socket → race.Holds other socket := by
      intro other socket holds
      rw [holds_step known after] at holds
      split at holds
      case isTrue mine => exact ⟨binding, mine ▸ known, held ▸ holds⟩
      case isFalse => exact holds
    constructor
    · intro other socket holds
      rw [same]
      exact calm.owns other socket (keeps other socket holds)
    · intro first second socket another holds others
      exact calm.single first second socket another (keeps _ _ holds) (keeps _ _ others)
  · -- nobody holds a socket while one is removed
    have nobody : ∀ other socket, ¬ (race.step index).Holds other socket := by
      intro other socket holds
      rw [holds_step known after] at holds
      split at holds
      case isTrue => cases held.symm.trans holds
      case isFalse others => exact careful ⟨⟨binding, known, clearing⟩, other, socket, others, holds⟩
    constructor
    · intro other socket holds
      exact absurd holds (nobody other socket)
    · intro first second socket another holds
      exact absurd holds (nobody first socket)
  · -- a socket is made only where nobody holds one
    have mine : ∀ other socket, (race.step index).Holds other socket → other = index ∧ socket = made := by
      intro other socket holds
      rw [holds_step known after] at holds
      split at holds
      case isTrue same => exact ⟨same, Option.some.inj (holds.symm.trans held)⟩
      case isFalse => exact absurd holds (calm.not_holds (isFree_of_bindSocket bound) other socket)
    constructor
    · intro other socket holds
      obtain ⟨-, rfl⟩ := mine other socket holds
      exact Listener.owns_of_bindSocket bound
    · intro first second socket another holds others
      exact (mine first socket holds).1.trans (mine second another others).1.symm

/-- Attempts that have done nothing yet are calm. -/
theorem calm_start (files : FileSystem) (path : String) (count : Nat) :
    (start files path count).Calm path := by
  constructor
  · intro index socket holds
    exact absurd holds (not_holds_start files path count index socket)
  · intro index other socket another holds
    exact absurd holds (not_holds_start files path count index socket)

/-- An order in which nobody is overlooked leaves the attempts calm. -/
theorem calm_run (files : FileSystem) (path : String) (count : Nat)
    (careful : (start files path count).Never Overlooks order) :
    ((start files path count).run order).Calm path := by
  induction order using List.reverseRecOn with
  | nil => exact calm_start files path count
  | append_singleton order index ih =>
    obtain ⟨before, last⟩ := never_concat.mp careful
    rw [run_append]
    exact (ih before).step ((sound_start files path count).run order) last

/-- Only a listener that is overlooked loses its socket. -/
theorem Sound.overlooks (sound : race.Sound path) (steals : race.Steals path index) :
    race.Overlooks index := by
  obtain ⟨other, socket, others, holds, there, gone⟩ := steals
  rcases sound.step_cases index with idle | ⟨binding, next, known, -, -, moves⟩
  · rw [idle] at gone
    exact absurd there gone
  rcases moves.held with ⟨same, -⟩ | ⟨clearing, -, -⟩ | ⟨made, bound, -, -⟩
  · rw [same] at gone
    exact absurd there gone
  · exact ⟨⟨binding, known, clearing⟩, other, socket, others, holds⟩
  · cases there.symm.trans ((isFree_of_bindSocket bound).find false)

/-- A listener that is overlooked for the first time loses its socket. -/
theorem Calm.steals (calm : race.Calm path) (sound : race.Sound path)
    (overlooks : race.Overlooks index) : race.Steals path index := by
  obtain ⟨⟨⟨place, stage, probed⟩, known, rfl⟩, other, socket, others, holds⟩ := overlooks
  obtain rfl : place = path := (sound index _ known).1
  have owns := calm.owns other socket holds
  refine ⟨other, socket, others, holds, owns.find false, ?_⟩
  obtain ⟨dir, name, -, -, removed⟩ := owns.remove_eq
  have there : race.files.SocketAt place .listening := ⟨socket, owns.find false, owns.listening⟩
  have steps := Binding.step_clearing race.files place probed
  rw [removed] at steps
  rw [step_eq known steps]
  simp [(there.isFree_remove owns.address removed).find false]

/-- An order takes no listener its socket exactly if it overlooks nobody. -/
theorem never_steals_iff (files : FileSystem) (path : String) (count : Nat) :
    (start files path count).Never (Steals path) order ↔
      (start files path count).Never Overlooks order := by
  induction order using List.reverseRecOn with
  | nil => simp [Never]
  | append_singleton order index ih =>
    rw [never_concat, never_concat, ih]
    have sound := (sound_start files path count).run order
    constructor
    · rintro ⟨before, last⟩
      exact ⟨before, fun overlooks => last ((calm_run files path count before).steals sound overlooks)⟩
    · rintro ⟨before, last⟩
      exact ⟨before, fun steals => last (sound.overlooks steals)⟩

/-- An attempt that has bound its path holds its socket. -/
theorem holds_of_result {listener : Listener} (known : race.attempts[index]? = some binding)
    (won : binding.result = .ok listener) : race.Holds index listener.socket := by
  refine ⟨binding, known, ?_⟩
  obtain ⟨path, stage, probed⟩ := binding
  cases stage with
  | bound socket =>
    obtain rfl := Except.ok.inj won
    rfl
  | _ => cases won

/-- Of calm attempts only one has bound the path. -/
theorem Calm.hasOneWinner (calm : race.Calm path) : race.HasOneWinner := by
  intro first second binding other listener another known others won also
  exact calm.single first second _ _ (holds_of_result known won) (holds_of_result others also)

/-! ### Files that no order can be unsafe at -/

/-- Nobody has made a socket, or one has and nobody is about to remove it. -/
inductive Settled (path : String) (files : FileSystem) (race : Race) : Prop
  /-- The files are as they were, and what every attempt goes by is so. -/
  | untouched (same : race.files = files) (nobody : ∀ index socket, ¬ race.Holds index socket)
      (grounded : ∀ (index : Nat) (binding : Binding), race.attempts[index]? = some binding →
        binding.stage.Grounded files path)
  /-- A listener owns the path, and nobody is about to remove its socket. -/
  | taken (socket : NodeId) (owns : Listener.Owns ⟨path, socket⟩ race.files)
      (careful : ∀ (index : Nat) (binding : Binding), race.attempts[index]? = some binding →
        binding.stage ≠ .clearing)

/-- Attempts that have done nothing yet are settled. -/
theorem settled_start (files : FileSystem) (path : String) (count : Nat) :
    (start files path count).Settled path files := by
  refine .untouched rfl (not_holds_start files path count) fun index binding known => ?_
  obtain rfl := List.eq_of_mem_replicate (List.mem_of_getElem? known)
  trivial

/-- Settled attempts overlook nobody. -/
theorem Settled.not_overlooks {files : FileSystem} (settled : race.Settled path files) :
    ¬ race.Overlooks index := by
  rintro ⟨⟨binding, known, clearing⟩, other, socket, -, holds⟩
  cases settled with
  | untouched same nobody grounded => exact nobody other socket holds
  | taken socket owns careful => exact careful index binding known clearing

/-- Attempts stay settled if there has been no socket that can be removed. -/
theorem Settled.step {files : FileSystem} (settled : race.Settled path files)
    (sound : race.Sound path) (fresh : ¬ files.IsStale path) (index : Nat) :
    (race.step index).Settled path files := by
  rcases sound.step_cases index with idle | ⟨binding, next, known, after, -, moves⟩
  · rwa [idle]
  cases settled with
  | untouched same nobody grounded =>
    subst same
    have going := grounded index binding known
    rcases moves.held with ⟨same, held⟩ | ⟨clearing, removed, -⟩ | ⟨made, bound, -, held⟩
    · refine .untouched same (fun other socket holds => ?_) fun other changed member => ?_
      · rw [holds_step known after] at holds
        split at holds
        case isTrue => exact nobody index socket ⟨binding, known, held ▸ holds⟩
        case isFalse => exact nobody other socket holds
      · rw [after, getElem?_set known] at member
        split at member
        · obtain rfl := Option.some.inj member
          exact moves.grounded going
        · exact grounded other changed member
    · rw [clearing] at going
      exact absurd ⟨going.1, going.2, _, removed⟩ fresh
    · refine .taken made (Listener.owns_of_bindSocket bound) fun other changed member => ?_
      rw [after, getElem?_set known] at member
      split at member
      · obtain rfl := Option.some.inj member
        rintro clearing
        simp [clearing, Binding.Stage.held?] at held
      · intro clearing
        have seen := grounded other changed member
        rw [clearing] at seen
        obtain ⟨id, found, -⟩ := seen.1
        cases found.symm.trans ((isFree_of_bindSocket bound).find false)
  | taken socket owns careful =>
    rcases moves.held with ⟨same, -⟩ | ⟨clearing, -, -⟩ | ⟨made, bound, -, -⟩
    · refine .taken socket (same ▸ owns) fun other changed member => ?_
      rw [after, getElem?_set known] at member
      split at member
      · obtain rfl := Option.some.inj member
        intro clearing
        obtain ⟨error, refused⟩ := moves.refused_of_clearing clearing
        cases refused.symm.trans owns.connectTo
      · exact careful other changed member
    · exact absurd clearing (careful index binding known)
    · cases ((isFree_of_bindSocket bound).find false).symm.trans (owns.find false)

/-- Without a socket that can be removed, no order overlooks anybody. -/
theorem never_overlooks_of_fresh {files : FileSystem} (fresh : ¬ files.IsStale path)
    (count : Nat) (order : List Nat) : (start files path count).Never Overlooks order := by
  have settled : ∀ order, ((start files path count).run order).Settled path files := by
    intro order
    induction order using List.reverseRecOn with
    | nil => exact settled_start files path count
    | append_singleton order index ih =>
      rw [run_append]
      exact ih.step ((sound_start files path count).run order) fresh index
  intro before index behind _
  exact (settled before).not_overlooks

/-- There are as many attempts as before. -/
theorem length_run (race : Race) (order : List Nat) :
    (race.run order).attempts.length = race.attempts.length := by
  induction order generalizing race with
  | nil => rfl
  | cons index order ih =>
    have kept : (race.step index).attempts.length = race.attempts.length := by
      unfold step
      split <;> simp
    exact (ih _).trans kept

/-- A single attempt overlooks nobody. -/
theorem never_overlooks_of_single {count : Nat} (single : count ≤ 1) (files : FileSystem)
    (path : String) (order : List Nat) : (start files path count).Never Overlooks order := by
  rintro before index behind - ⟨⟨binding, known, -⟩, other, socket, others, ⟨holder, there, -⟩⟩
  have length : ((start files path count).run before).attempts.length = count := by
    rw [length_run]
    exact List.length_replicate
  have first := (List.getElem?_eq_some_iff.mp known).1
  have second := (List.getElem?_eq_some_iff.mp there).1
  omega

/-! ### Orders in which a socket is stolen -/

/-- Both attempts look before one of them is bound, and then the other removes its socket. -/
def overtaking : List Nat := [0, 0, 0, 1, 1, 1, 0, 0, 0, 1, 1, 1]

/-- At a socket that nobody listens at, two attempts can both be bound. -/
theorem not_hasOneWinner_overtaking {files : FileSystem} (stale : files.IsStale path) (count : Nat) :
    ¬ ((start files path (count + 2)).run overtaking).HasOneWinner := by
  have looks := Binding.runFor_clearing stale
  obtain ⟨later, removed⟩ := stale.removable
  obtain ⟨first, made, owns, bound⟩ := Binding.runFor_bound stale.closed stale.address removed
  obtain ⟨dir, name, -, -, stolen⟩ := owns.remove_eq
  have there : made.SocketAt path .listening := ⟨first, owns.find false, owns.listening⟩
  obtain ⟨second, last, -, again⟩ := Binding.runFor_bound there owns.address stolen
  let fresh : List Binding := List.replicate count { path }
  have begins : (start files path (count + 2)).run (List.replicate 3 0) =
      ⟨files, ⟨path, .clearing, none⟩ :: { path } :: fresh⟩ := run_replicate rfl looks
  have both : ((⟨files, ⟨path, .clearing, none⟩ :: { path } :: fresh⟩ : Race).run
      (List.replicate 3 1)) = ⟨files, ⟨path, .clearing, none⟩ :: ⟨path, .clearing, none⟩ :: fresh⟩ :=
    run_replicate rfl looks
  have wins : ((⟨files, ⟨path, .clearing, none⟩ :: ⟨path, .clearing, none⟩ :: fresh⟩ : Race).run
      (List.replicate 3 0)) = ⟨made, ⟨path, .bound first, none⟩ :: ⟨path, .clearing, none⟩ :: fresh⟩ :=
    run_replicate rfl bound
  have steals : ((⟨made, ⟨path, .bound first, none⟩ :: ⟨path, .clearing, none⟩ :: fresh⟩ : Race).run
      (List.replicate 3 1)) = ⟨last, ⟨path, .bound first, none⟩ :: ⟨path, .bound second, none⟩ :: fresh⟩ :=
    run_replicate rfl again
  have turns : overtaking =
      List.replicate 3 0 ++ List.replicate 3 1 ++ List.replicate 3 0 ++ List.replicate 3 1 := rfl
  rw [turns, run_append, run_append, run_append, begins, both, wins, steals]
  intro single
  exact absurd (single 0 1 _ _ _ _ rfl rfl rfl rfl) Nat.zero_ne_one

/-- Attempts to bind one path take each other no socket exactly if none removes what it has looked at
before another made its own socket there, and then at most one of them is bound. Every order of their
steps is such a one exactly if there is one attempt or no socket that nobody listens at. -/
theorem never_steals_iff_not_stale (files : FileSystem) (path : String) (count : Nat) :
    (∀ order, (start files path count).Never (Steals path) order ↔
        (start files path count).Never Overlooks order) ∧
      (∀ order, (start files path count).Never (Steals path) order →
        ((start files path count).run order).HasOneWinner) ∧
      ((∀ order, (start files path count).Never (Steals path) order) ↔
        count ≤ 1 ∨ ¬ files.IsStale path) ∧
      ((∀ order, ((start files path count).run order).HasOneWinner) ↔
        count ≤ 1 ∨ ¬ files.IsStale path) := by
  have winner : ∀ order, (start files path count).Never (Steals path) order →
      ((start files path count).run order).HasOneWinner := by
    intro order never
    exact (calm_run files path count ((never_steals_iff files path count).mp never)).hasOneWinner
  have safe (holds : count ≤ 1 ∨ ¬ files.IsStale path) (order : List Nat) :
      (start files path count).Never (Steals path) order := by
    apply (never_steals_iff files path count).mpr
    rcases holds with single | fresh
    · exact never_overlooks_of_single single files path order
    · exact never_overlooks_of_fresh fresh count order
  have unsafe_of (every : ∀ order, ((start files path count).run order).HasOneWinner) :
      count ≤ 1 ∨ ¬ files.IsStale path := by
    by_contra both
    obtain ⟨several, stale⟩ := not_or.mp both
    obtain ⟨others, rfl⟩ := Nat.exists_eq_add_of_le' (Nat.lt_of_not_le several)
    exact not_hasOneWinner_overtaking (not_not.mp stale) others (every overtaking)
  refine ⟨fun order => never_steals_iff files path count, winner, ⟨fun never => ?_, safe⟩, unsafe_of,
    fun holds order => winner order (safe holds order)⟩
  exact unsafe_of fun order => winner order (never order)

/-- The root has a socket that nobody listens at. -/
def staleFiles : FileSystem where
  nodes := [.directory 0 0o755 [("s", 1)], .socket .closed]

/-- The socket in the root is one that whoever binds the path removes. -/
theorem isStale_staleFiles : staleFiles.IsStale "s" := by
  have ends : staleFiles.ending "s" = .ok (.named 0 "s" false) :=
    ending_bare (by decide +kernel) (by decide +kernel) (by decide +kernel) (by decide +kernel)
      (by decide) (by decide) (by decide) ⟨_, _, _, rfl⟩
  have found : staleFiles.find "s" false = .ok 1 := find_of_ending ends fun never => absurd never Bool.false_ne_true
  refine ⟨⟨1, found, rfl⟩, by decide +kernel, staleFiles.removeEntry 0 "s", ?_⟩
  unfold FileSystem.remove
  rw [ends]
  rfl

/-- Two attempts to bind the path of a socket that nobody listens at, in an order in which the second
removes the socket of the first, are both bound. -/
theorem not_never_steals_staleFiles :
    ¬ ∀ files path count order, (start files path count).Never (Steals path) order ∧
      ((start files path count).run order).HasOneWinner := by
  intro every
  exact not_hasOneWinner_overtaking isStale_staleFiles 0 (every staleFiles "s" 2 overtaking).2

end Race

end ThresholdDaemon
