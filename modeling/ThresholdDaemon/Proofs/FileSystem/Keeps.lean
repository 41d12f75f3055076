import ThresholdDaemon.Proofs.FileSystem.Ending

/-!
# What changes leave in place

A new node, a socket that is closed and a socket whose name is taken away leave all directories and
links where they are. So a path that ends at a name in a directory still ends there.
-/
namespace ThresholdDaemon.FileSystem

variable {fs later : FileSystem}

/-- A node that there is has a number below the next one. -/
theorem lt_length_of_node? {id : NodeId} {node : Node} (at_id : fs.node? id = some node) :
    id < fs.nodes.length :=
  (List.getElem?_eq_some_iff.mp at_id).1

/-- What a directory names by a name. -/
theorem entry_of_directory {dir parent mode : Nat} {entries : List (String × NodeId)}
    (at_dir : fs.node? dir = some (.directory parent mode entries)) (name : String) :
    fs.entry? dir name = entries.lookup name := by
  unfold entry?
  rw [at_dir]

/-- The node that replaces another. -/
theorem node?_setNode_self {id : NodeId} {before : Node} (at_id : fs.node? id = some before)
    (node : Node) : (fs.setNode id node).node? id = some node :=
  List.getElem?_set_self (lt_length_of_node? at_id)

/-- The other nodes stay when one is replaced. -/
theorem node?_setNode_of_ne {id other : NodeId} (apart : other ≠ id) (node : Node) :
    (fs.setNode id node).node? other = fs.node? other :=
  List.getElem?_set_ne apart.symm

/-- What is no directory names no new node. -/
theorem addNode_of_not_isDirectory {dir : NodeId} (leaf : ¬ fs.IsDirectory dir) (name : String)
    (node : Node) : (fs.addNode dir name node).1 = fs := by
  unfold addNode
  split
  · exact absurd ⟨_, _, _, ‹_›⟩ leaf
  · rfl

section AddNode

variable {dir parent mode : Nat} {entries : List (String × NodeId)}
  (at_dir : fs.node? dir = some (.directory parent mode entries)) (name : String) (node : Node)

include at_dir

/-- A node is added behind the others, and the directory names it. -/
theorem addNode_eq :
    fs.addNode dir name node =
      (({ fs with nodes := fs.nodes ++ [node] }).setNode dir
        (.directory parent mode (entries ++ [(name, fs.nodes.length)])), fs.nodes.length) := by
  unfold addNode
  rw [at_dir]

/-- The directory that names the new node. -/
theorem node?_addNode_directory :
    (fs.addNode dir name node).1.node? dir =
      some (.directory parent mode (entries ++ [(name, fs.nodes.length)])) := by
  have before : ({ fs with nodes := fs.nodes ++ [node] } : FileSystem).node? dir =
      some (.directory parent mode entries) :=
    (List.getElem?_append_left (lt_length_of_node? at_dir)).trans at_dir
  rw [addNode_eq at_dir]
  exact node?_setNode_self before _

/-- The new node. -/
theorem node?_addNode_new : (fs.addNode dir name node).1.node? fs.nodes.length = some node := by
  rw [addNode_eq at_dir]
  refine (node?_setNode_of_ne (Nat.ne_of_gt (lt_length_of_node? at_dir)) _).trans ?_
  exact List.getElem?_concat_length

/-- All other nodes stay. -/
theorem node?_addNode_of_ne {other : NodeId} {before : Node} (apart : other ≠ dir)
    (at_other : fs.node? other = some before) :
    (fs.addNode dir name node).1.node? other = some before := by
  rw [addNode_eq at_dir]
  refine (node?_setNode_of_ne apart _).trans ?_
  exact (List.getElem?_append_left (lt_length_of_node? at_other)).trans at_other

/-- What a name leads to stays when a node is added. -/
theorem entry_addNode_of_some {other child : NodeId} {known : String}
    (entry : fs.entry? other known = some child) :
    FileSystem.entry? (fs.addNode dir name node).1 other known = some child := by
  by_cases here : other = dir
  · subst here
    rw [entry_of_directory at_dir] at entry
    rw [entry_of_directory (node?_addNode_directory at_dir name node), List.lookup_append, entry]
    rfl
  · unfold entry? at entry ⊢
    cases at_other : fs.node? other with
    | none => simp [at_other] at entry
    | some before =>
      rw [at_other] at entry
      rw [node?_addNode_of_ne at_dir name node here at_other]
      exact entry

/-- The directory names the new node, if it has not had the name before. -/
theorem entry_addNode_self (free : fs.entry? dir name = none) :
    FileSystem.entry? (fs.addNode dir name node).1 dir name = some fs.nodes.length := by
  rw [entry_of_directory at_dir] at free
  rw [entry_of_directory (node?_addNode_directory at_dir name node), List.lookup_append, free]
  simp

end AddNode

/-- The node is a socket. -/
def IsSocket (fs : FileSystem) (id : NodeId) : Prop := ∃ endpoint, fs.node? id = some (.socket endpoint)

/-- A later file system has all directories and links of an earlier one and what its directories
name, sockets apart. -/
structure Keeps (fs later : FileSystem) : Prop where
  /-- The root is the same. -/
  root : later.root = fs.root
  /-- Relative paths start from the same directory. -/
  current : later.current = fs.current
  /-- The directories are there with what they name, sockets apart. -/
  directory : ∀ {id parent mode entries}, fs.node? id = some (.directory parent mode entries) →
    ∃ found, later.node? id = some (.directory parent mode found) ∧
      ∀ name child, entries.lookup name = some child → ¬ fs.IsSocket child →
        found.lookup name = some child
  /-- The links are there. -/
  link : ∀ {id target}, fs.node? id = some (.link target) → later.node? id = some (.link target)

namespace Keeps

/-- Directories stay directories. -/
theorem isDirectory (keeps : fs.Keeps later) {id : NodeId} (directory : fs.IsDirectory id) :
    later.IsDirectory id := by
  obtain ⟨parent, mode, entries, at_id⟩ := directory
  obtain ⟨found, at_later, -⟩ := keeps.directory at_id
  exact ⟨parent, mode, found, at_later⟩

/-- Paths start from the same directory. -/
theorem startOf (keeps : fs.Keeps later) (id : NodeId) (path : String) :
    later.startOf id path = fs.startOf id path := by
  unfold FileSystem.startOf
  rw [keeps.root]

/-- What leads to a directory starts from one. -/
theorem isDirectory_of_descend {links left : Nat} {id dir : NodeId} {names : List String}
    (led : fs.descend links id names = .ok (dir, left)) (directory : fs.IsDirectory dir) :
    fs.IsDirectory id := by
  have walked := walk_front_eq_ok.mpr ⟨left, led, directory⟩
  cases names with
  | nil => exact (walk_cons_ok walked).1
  | cons name rest => exact (walk_cons_ok walked).1

/-- What leads to a directory leads to it later. -/
theorem descend (keeps : fs.Keeps later) {links left : Nat} {id dir : NodeId} {names : List String}
    (led : fs.descend links id names = .ok (dir, left)) (directory : fs.IsDirectory dir) :
    later.descend links id names = .ok (dir, left) := by
  fun_induction fs.descend links id names with
  | case1 links id => rwa [FileSystem.descend]
  | case2 links id rest parent mode entries at_id ih =>
    obtain ⟨found, at_later, -⟩ := keeps.directory at_id
    rw [FileSystem.descend, at_later]
    exact ih led
  | case3 links id rest parent mode entries at_id _ ih =>
    obtain ⟨found, at_later, -⟩ := keeps.directory at_id
    rw [FileSystem.descend, at_later]
    exact ih led
  | case4 => cases led
  | case5 => cases led
  | case6 => cases led
  | case7 id name rest parent mode entries at_id self up short child known target leads links ih =>
    obtain ⟨found, at_later, stays⟩ := keeps.directory at_id
    have named := stays name child known (by simp [IsSocket, leads])
    have last := ih led
    rw [← keeps.startOf id target] at last
    rw [FileSystem.descend, at_later]
    simp only [if_neg self, if_neg up, if_neg short, named, keeps.link leads]
    exact last
  | case8 id name rest parent mode entries at_id self up short child known links no_link ih =>
    obtain ⟨found, at_later, stays⟩ := keeps.directory at_id
    have inner := isDirectory_of_descend led directory
    obtain ⟨_, _, _, at_child⟩ := inner
    have named := stays name child known (by simp [IsSocket, at_child])
    obtain ⟨_, at_child_later, -⟩ := keeps.directory at_child
    rw [FileSystem.descend, at_later]
    simp only [if_neg self, if_neg up, if_neg short, named, at_child_later]
    exact ih led
  | case9 => cases led

/-- A path that ends at a name in a directory ends there later. -/
theorem ending (keeps : fs.Keeps later) {path : String} {dir : NodeId} {name : String} {slash : Bool}
    (ends : fs.ending path = .ok (.named dir name slash)) :
    later.ending path = .ok (.named dir name slash) := by
  obtain ⟨checked, same, no_self, no_up, short, directory, front, left, whole, led⟩ :=
    ending_eq_named.mp ends
  refine ending_eq_named.mpr ⟨checked, same, no_self, no_up, short, keeps.isDirectory directory,
    front, left, whole, ?_⟩
  rw [keeps.current, keeps.startOf]
  exact keeps.descend led directory

end Keeps

/-- Nothing changes. -/
theorem Keeps.refl (fs : FileSystem) : fs.Keeps fs :=
  ⟨rfl, rfl, fun at_id => ⟨_, at_id, fun _ _ known _ => known⟩, fun at_id => at_id⟩

/-- A new node leaves everything in place. -/
theorem keeps_addNode (dir : NodeId) (name : String) (node : Node) :
    fs.Keeps (fs.addNode dir name node).1 := by
  by_cases directory : fs.IsDirectory dir
  · obtain ⟨parent, mode, entries, at_dir⟩ := directory
    have same : (fs.addNode dir name node).1.root = fs.root ∧
        (fs.addNode dir name node).1.current = fs.current := by
      rw [addNode_eq at_dir]
      exact ⟨rfl, rfl⟩
    refine ⟨same.1, same.2, fun {id other_parent other_mode others} at_id => ?_,
      fun {id target} at_id => ?_⟩
    · by_cases here : id = dir
      · subst here
        obtain ⟨rfl, rfl, rfl⟩ := Node.directory.inj (Option.some.inj (at_dir.symm.trans at_id))
        refine ⟨_, node?_addNode_directory at_dir name node, fun other child known _ => ?_⟩
        rw [List.lookup_append, known]
        rfl
      · exact ⟨others, node?_addNode_of_ne at_dir name node here at_id, fun _ _ known _ => known⟩
    · have apart : id ≠ dir := by
        rintro rfl
        cases at_dir.symm.trans at_id
      exact node?_addNode_of_ne at_dir name node apart at_id
  · rw [addNode_of_not_isDirectory directory]
    exact .refl fs

/-- A directory that is replaced by one with other entries. -/
theorem keeps_setNode {dir parent mode : Nat} {entries found : List (String × NodeId)}
    (at_dir : fs.node? dir = some (.directory parent mode entries))
    (stays : ∀ name child, entries.lookup name = some child → ¬ fs.IsSocket child →
      found.lookup name = some child) :
    fs.Keeps (fs.setNode dir (.directory parent mode found)) := by
  refine ⟨rfl, rfl, fun {id other_parent other_mode others} at_id => ?_,
    fun {id target} at_id => ?_⟩
  · by_cases here : id = dir
    · subst here
      obtain ⟨rfl, rfl, rfl⟩ := Node.directory.inj (Option.some.inj (at_dir.symm.trans at_id))
      exact ⟨found, node?_setNode_self at_dir _, stays⟩
    · exact ⟨others, (node?_setNode_of_ne here _).trans at_id, fun _ _ known _ => known⟩
  · have apart : id ≠ dir := by
      rintro rfl
      cases at_dir.symm.trans at_id
    exact (node?_setNode_of_ne apart _).trans at_id

/-- Without the entries of a name every other name leads where it did, and that name nowhere. -/
theorem lookup_filter_ne (name other : String) (entries : List (String × NodeId)) :
    (entries.filter fun (found, _) => found ≠ name).lookup other =
      if other = name then none else entries.lookup other := by
  induction entries with
  | nil => simp
  | cons entry rest ih =>
    obtain ⟨found, child⟩ := entry
    by_cases same : found = name
    · subst same
      rw [List.filter_cons_of_neg (by simp), ih]
      by_cases here : other = found
      · rw [if_pos here, if_pos here]
      · rw [if_neg here, if_neg here, List.lookup_cons, beq_false_of_ne here]
    · rw [List.filter_cons_of_pos (by simpa using same), List.lookup_cons, List.lookup_cons, ih]
      by_cases here : other = found
      · subst here
        simp only [if_neg same]
      · rw [beq_false_of_ne here]

/-- Taking away the name of a socket leaves everything else in place. -/
theorem keeps_removeEntry {dir : NodeId} {name : String}
    (socket : ∀ child, fs.entry? dir name = some child → fs.IsSocket child) :
    fs.Keeps (fs.removeEntry dir name) := by
  unfold removeEntry
  split
  · next parent mode entries at_dir =>
    refine keeps_setNode at_dir fun other child known plain => ?_
    rw [lookup_filter_ne, if_neg, known]
    rintro rfl
    exact plain (socket child ((entry_of_directory at_dir other).trans known))
  · exact .refl fs

/-- A name that is taken away leads nowhere, and all others lead where they did. -/
theorem entry_removeEntry (fs : FileSystem) (dir : NodeId) (name : String) (other : NodeId)
    (known : String) :
    FileSystem.entry? (fs.removeEntry dir name) other known =
      if other = dir ∧ known = name then none else fs.entry? other known := by
  unfold removeEntry
  split
  · next parent mode entries at_dir =>
    by_cases here : other = dir
    · subst here
      rw [entry_of_directory (node?_setNode_self at_dir _), lookup_filter_ne,
        entry_of_directory at_dir]
      simp
    · rw [if_neg fun both => here both.1]
      unfold entry?
      rw [node?_setNode_of_ne here]
  · next no_directory =>
    split
    · next both =>
      obtain ⟨rfl, rfl⟩ := both
      unfold entry?
      split
      · exact absurd ‹_› (no_directory _ _ _)
      · rfl
    · rfl

/-- Taking away a name leaves all but directories as they are. -/
theorem node?_removeEntry {dir : NodeId} {name : String} {other : NodeId}
    (leaf : ¬ fs.IsDirectory other) : (fs.removeEntry dir name).node? other = fs.node? other := by
  unfold removeEntry
  split
  · next parent mode entries at_dir =>
    refine node?_setNode_of_ne ?_ _
    rintro rfl
    exact leaf ⟨parent, mode, entries, at_dir⟩
  · rfl

/-- Closing a socket leaves everything in place. -/
theorem keeps_closeSocket (id : NodeId) : fs.Keeps (fs.closeSocket id) := by
  unfold closeSocket
  split
  · next endpoint at_socket =>
    refine ⟨rfl, rfl, fun {other parent mode entries} at_other => ?_,
      fun {other target} at_other => ?_⟩
    · have apart : other ≠ id := by
        rintro rfl
        cases at_socket.symm.trans at_other
      exact ⟨entries, (node?_setNode_of_ne apart _).trans at_other, fun _ _ known _ => known⟩
    · have apart : other ≠ id := by
        rintro rfl
        cases at_socket.symm.trans at_other
      exact (node?_setNode_of_ne apart _).trans at_other
  · exact .refl fs

/-- All nodes but the socket that is closed stay as they are. -/
theorem node?_closeSocket_of_ne {id other : NodeId} (apart : other ≠ id) :
    (fs.closeSocket id).node? other = fs.node? other := by
  unfold closeSocket
  split
  · exact node?_setNode_of_ne apart _
  · rfl

/-- Closing a socket leaves all names where they are. -/
theorem entry_closeSocket (fs : FileSystem) (id dir : NodeId) (name : String) :
    FileSystem.entry? (fs.closeSocket id) dir name = fs.entry? dir name := by
  by_cases here : dir = id
  · subst here
    unfold closeSocket
    split
    · next endpoint at_socket =>
      unfold entry?
      rw [node?_setNode_self at_socket, at_socket]
    · rfl
  · unfold entry?
    rw [node?_closeSocket_of_ne here]

end ThresholdDaemon.FileSystem
