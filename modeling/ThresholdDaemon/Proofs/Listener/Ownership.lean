import ThresholdDaemon.Listener
import ThresholdDaemon.Proofs.FileSystem.Keeps

/-!
# Listeners own what is at their paths

The path of a listener ends at a name for its own socket, which can be connected to. New nodes and
what other listeners do to their own sockets leave that so. A listener that goes away takes its own
socket with it, and then its path is free.
-/
namespace ThresholdDaemon

open FileSystem

/-- A listener has its own listening socket at its path. -/
structure Listener.Owns (listener : Listener) (fs : FileSystem) : Prop where
  /-- The path can be the address of a socket. -/
  address : checkAddress listener.path = .ok ()
  /-- The socket listens. -/
  listening : fs.node? listener.socket = some (.socket .listening)
  /-- The path ends at a name for the socket. -/
  named : ∃ dir name, fs.ending listener.path = .ok (.named dir name false) ∧
    fs.entry? dir name = some listener.socket

/-- A path can be bound: it ends at a name that nothing has. -/
structure FileSystem.IsFree (fs : FileSystem) (path : String) : Prop where
  /-- The path can be the address of a socket. -/
  address : checkAddress path = .ok ()
  /-- The path ends at a name that its directory does not have. -/
  free : ∃ dir name, fs.ending path = .ok (.named dir name false) ∧ fs.entry? dir name = none

/-- A path at which nothing is listening is not the path of a listener. -/
theorem FileSystem.IsFree.find {fs : FileSystem} {path : String} (free : fs.IsFree path)
    (follow : Bool) : fs.find path follow = .error absent := by
  obtain ⟨dir, name, ends, unknown⟩ := free.free
  have seen : fs.find path follow = _ := find_of_ending ends (by simp [unknown])
  rwa [unknown] at seen

namespace Listener.Owns

variable {listener : Listener} {fs later : FileSystem}

/-- A socket is no directory. -/
theorem not_isDirectory (owns : listener.Owns fs) : ¬ fs.IsDirectory listener.socket := by
  rintro ⟨parent, mode, entries, at_dir⟩
  cases owns.listening.symm.trans at_dir

/-- The socket of a listener is found at its path. -/
theorem find (owns : listener.Owns fs) (follow : Bool) :
    fs.find listener.path follow = .ok listener.socket := by
  obtain ⟨dir, name, ends, known⟩ := owns.named
  have plain : follow = true → ∀ child target, fs.entry? dir name = some child →
      fs.node? child ≠ some (.link target) := by
    intro _ child target entry leads
    obtain rfl := Option.some.inj (known.symm.trans entry)
    cases owns.listening.symm.trans leads
  have seen := find_of_ending ends plain
  rwa [known] at seen

/-- Clients can connect to the path of a listener. -/
theorem connectTo (owns : listener.Owns fs) : fs.connectTo listener.path = .ok listener.socket := by
  rw [connectTo_eq (owns.find false) owns.listening, owns.address]
  rfl

/-- A change that keeps the name and the socket of a listener leaves it what it owns. -/
theorem keep (owns : listener.Owns fs) (keeps : fs.Keeps later)
    (entry : ∀ dir name, fs.entry? dir name = some listener.socket →
      later.entry? dir name = some listener.socket)
    (node : later.node? listener.socket = fs.node? listener.socket) : listener.Owns later := by
  obtain ⟨dir, name, ends, known⟩ := owns.named
  exact ⟨owns.address, node.trans owns.listening, dir, name, keeps.ending ends, entry dir name known⟩

/-- A new node leaves a listener what it owns. -/
theorem addNode (owns : listener.Owns fs) (dir : NodeId) (name : String) (node : Node) :
    listener.Owns (fs.addNode dir name node).1 := by
  by_cases directory : fs.IsDirectory dir
  · obtain ⟨parent, mode, entries, at_dir⟩ := directory
    have apart : listener.socket ≠ dir := by
      rintro rfl
      exact owns.not_isDirectory ⟨parent, mode, entries, at_dir⟩
    refine owns.keep (keeps_addNode dir name node) (fun other known entry => ?_) ?_
    · exact entry_addNode_of_some at_dir name node entry
    · rw [node?_addNode_of_ne at_dir name node apart owns.listening, owns.listening]
  · rwa [addNode_of_not_isDirectory directory]

/-- Taking away the name of another socket leaves a listener what it owns. -/
theorem removeEntry (owns : listener.Owns fs) {dir : NodeId} {name : String}
    (socket : ∀ child, fs.entry? dir name = some child →
      fs.IsSocket child ∧ child ≠ listener.socket) :
    listener.Owns (fs.removeEntry dir name) := by
  refine owns.keep (keeps_removeEntry fun child known => (socket child known).1)
    (fun other known entry => ?_) (node?_removeEntry owns.not_isDirectory)
  rw [entry_removeEntry, if_neg, entry]
  rintro ⟨rfl, rfl⟩
  exact (socket _ entry).2 rfl

/-- Closing another socket leaves a listener what it owns. -/
theorem closeSocket (owns : listener.Owns fs) {id : NodeId} (apart : listener.socket ≠ id) :
    listener.Owns (fs.closeSocket id) := by
  refine owns.keep (keeps_closeSocket id) (fun dir name entry => ?_) (node?_closeSocket_of_ne apart)
  rwa [entry_closeSocket]

/-- The socket of a listener can be removed. -/
theorem remove_eq (owns : listener.Owns fs) :
    ∃ dir name, fs.ending listener.path = .ok (.named dir name false) ∧
      fs.entry? dir name = some listener.socket ∧
      fs.remove listener.path = .ok (fs.removeEntry dir name) := by
  obtain ⟨dir, name, ends, known⟩ := owns.named
  refine ⟨dir, name, ends, known, ?_⟩
  unfold FileSystem.remove
  rw [ends]
  simp only [bind, Except.bind, known, owns.listening]
  rfl

/-- A listener that goes away takes away the name of its socket and closes the socket. -/
theorem release_eq (owns : listener.Owns fs) :
    ∃ dir name, fs.ending listener.path = .ok (.named dir name false) ∧
      fs.entry? dir name = some listener.socket ∧
      listener.release fs = ((fs.removeEntry dir name).closeSocket listener.socket, []) := by
  obtain ⟨dir, name, ends, known, removed⟩ := owns.remove_eq
  refine ⟨dir, name, ends, known, ?_⟩
  unfold release
  rw [removed]

/-- A listener that goes away leaves its path free. -/
theorem isFree_release (owns : listener.Owns fs) : (listener.release fs).1.IsFree listener.path := by
  obtain ⟨dir, name, ends, known, released⟩ := owns.release_eq
  have keeps : fs.Keeps (fs.removeEntry dir name) := by
    refine keeps_removeEntry fun child entry => ?_
    obtain rfl := Option.some.inj (known.symm.trans entry)
    exact ⟨_, owns.listening⟩
  rw [released]
  refine ⟨owns.address, dir, name, (keeps_closeSocket _).ending (keeps.ending ends), ?_⟩
  rw [entry_closeSocket, entry_removeEntry, if_pos ⟨rfl, rfl⟩]

/-- A listener that goes away leaves the others what they own. -/
theorem release (owns : listener.Owns fs) {other : Listener} (others : other.Owns fs)
    (apart : other.socket ≠ listener.socket) : other.Owns (listener.release fs).1 := by
  obtain ⟨dir, name, -, known, released⟩ := owns.release_eq
  rw [released]
  refine (others.removeEntry fun child entry => ?_).closeSocket apart
  obtain rfl := Option.some.inj (known.symm.trans entry)
  exact ⟨⟨_, owns.listening⟩, apart.symm⟩

end Listener.Owns

end ThresholdDaemon
