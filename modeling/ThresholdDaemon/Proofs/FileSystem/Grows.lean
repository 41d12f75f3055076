import ThresholdDaemon.Proofs.FileSystem.Keeps

/-!
# What new directories add

Making a directory adds a node and a name for it. What has been there is still there, with its
permissions and with what it names, and so it is when further directories are made.
-/
namespace ThresholdDaemon.FileSystem

variable {fs later : FileSystem} {mode : Nat}

/-- A later file system has all that an earlier one has, and beside it only new directories with some
permissions. -/
structure Grows (mode : Nat) (fs later : FileSystem) : Prop where
  /-- The root is the same. -/
  root : later.root = fs.root
  /-- Relative paths start from the same directory. -/
  current : later.current = fs.current
  /-- A directory keeps its parent, its permissions and what it names, and names only new nodes by
  new names beside it. -/
  directory : ∀ {id parent own entries}, fs.node? id = some (.directory parent own entries) →
    ∃ added, later.node? id = some (.directory parent own (entries ++ added)) ∧
      ∀ entry ∈ added, entries.lookup entry.1 = none ∧ fs.node? entry.2 = none
  /-- Every other node stays as it is. -/
  leaf : ∀ {id node}, fs.node? id = some node → ¬ fs.IsDirectory id → later.node? id = some node
  /-- A new node is a directory with the permissions. -/
  new : ∀ {id node}, fs.node? id = none → later.node? id = some node →
    ∃ parent entries, node = .directory parent mode entries

namespace Grows

/-- Nothing is added. -/
theorem refl (mode : Nat) (fs : FileSystem) : Grows mode fs fs where
  root := rfl
  current := rfl
  directory := fun {id parent own entries} at_id =>
    ⟨[], by rw [List.append_nil, at_id], fun _ => nofun⟩
  leaf at_id _ := at_id
  new nothing there := nomatch nothing.symm.trans there

/-- What is new later has been new before. -/
theorem node?_eq_none (grows : Grows mode fs later) {id : NodeId}
    (new : later.node? id = none) : fs.node? id = none := by
  cases at_id : fs.node? id with
  | none => rfl
  | some node =>
    by_cases directory : fs.IsDirectory id
    · obtain ⟨parent, own, entries, at_dir⟩ := directory
      obtain ⟨added, still, -⟩ := grows.directory at_dir
      cases new.symm.trans still
    · cases new.symm.trans (grows.leaf at_id directory)

/-- What is added behind something added is added as well. -/
theorem trans {last : FileSystem} (grows : Grows mode fs later) (more : Grows mode later last) :
    Grows mode fs last where
  root := more.root.trans grows.root
  current := more.current.trans grows.current
  directory at_id := by
    obtain ⟨added, still, new⟩ := grows.directory at_id
    obtain ⟨others, at_last, newer⟩ := more.directory still
    refine ⟨added ++ others, by rw [at_last, List.append_assoc], fun entry member => ?_⟩
    rcases List.mem_append.mp member with first | second
    · exact new entry first
    · obtain ⟨unknown, nothing⟩ := newer entry second
      rw [List.lookup_append, Option.or_eq_none_iff] at unknown
      exact ⟨unknown.1, grows.node?_eq_none nothing⟩
  leaf {id node} at_id no_directory := by
    refine more.leaf (grows.leaf at_id no_directory) ?_
    rintro ⟨parent, own, entries, at_dir⟩
    obtain rfl := Option.some.inj ((grows.leaf at_id no_directory).symm.trans at_dir)
    exact no_directory ⟨parent, own, entries, at_id⟩
  new {id node} nothing there := by
    cases between : later.node? id with
    | none => exact more.new between there
    | some node =>
      obtain ⟨parent, entries, rfl⟩ := grows.new nothing between
      obtain ⟨added, still, -⟩ := more.directory between
      exact ⟨parent, entries ++ added, Option.some.inj (there.symm.trans still)⟩

/-- A directory is added under a name that is free. -/
theorem addNode {dir : NodeId} {name : String} (directory : fs.IsDirectory dir)
    (free : fs.entry? dir name = none) (mode : Nat) :
    Grows mode fs (fs.addNode dir name (.directory dir mode [])).1 := by
  obtain ⟨parent, own, entries, at_dir⟩ := directory
  have next : fs.node? fs.nodes.length = none := List.getElem?_eq_none (Nat.le_refl _)
  refine ⟨?_, ?_, fun {id above other held} at_id => ?_, fun {id node} at_id no_directory => ?_,
    fun {id node} nothing there => ?_⟩
  · rw [addNode_eq at_dir]
    rfl
  · rw [addNode_eq at_dir]
    rfl
  · by_cases here : id = dir
    · subst here
      obtain ⟨rfl, rfl, rfl⟩ := Node.directory.inj (Option.some.inj (at_id.symm.trans at_dir))
      refine ⟨_, node?_addNode_directory at_dir name _, fun entry member => ?_⟩
      obtain rfl := List.mem_singleton.mp member
      exact ⟨(entry_of_directory at_dir name).symm.trans free, next⟩
    · refine ⟨[], ?_, fun _ => nofun⟩
      rw [List.append_nil, node?_addNode_of_ne at_dir name _ here at_id]
  · refine node?_addNode_of_ne at_dir name _ ?_ at_id
    rintro rfl
    exact no_directory ⟨parent, own, entries, at_dir⟩
  · by_cases last : id = fs.nodes.length
    · subst last
      rw [node?_addNode_new at_dir name] at there
      exact ⟨dir, [], (Option.some.inj there).symm⟩
    · have beyond : fs.nodes.length + 1 ≤ id :=
        Nat.lt_of_le_of_ne (List.getElem?_eq_none_iff.mp nothing) (Ne.symm last)
      have gone : FileSystem.node? (fs.addNode dir name (.directory dir mode [])).1 id = none := by
        rw [addNode_eq at_dir]
        refine List.getElem?_eq_none ?_
        simpa [setNode] using beyond
      exact nomatch gone.symm.trans there

end Grows

end ThresholdDaemon.FileSystem
