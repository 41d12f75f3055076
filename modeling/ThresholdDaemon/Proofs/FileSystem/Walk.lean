import ThresholdDaemon.FileSystem.Walk

/-!
# Walks in parts

A walk along some segments and some more behind them is a walk along the first, which leaves some
links, and a walk along the others from where the first has led. So the end of a path is found from
the directory that all in front of its last name leads to.
-/
namespace ThresholdDaemon.FileSystem

variable {fs : FileSystem}

/-- Walk some segments that others follow. The links that are left are for the others. -/
def descend (fs : FileSystem) : (links : Nat) → NodeId → List String →
    Except SystemError (NodeId × Nat)
  | links, id, [] => .ok (id, links)
  | links, id, name :: rest =>
    match fs.node? id with
    | some (.directory parent _ entries) =>
      if name = "." then descend fs links id rest
      else if name = ".." then descend fs links parent rest
      else if nameMax < name.utf8ByteSize then .error tooLong
      else
        match entries.lookup name with
        | none => .error absent
        | some child =>
          match fs.node? child, links with
          | some (.link target), links =>
            match links with
            | 0 => .error loops
            | links + 1 => descend fs links (fs.startOf id target) (steps target ++ rest)
          | _, links => descend fs links child rest
    | _ => .error notADirectory
termination_by links _ names => (links, names.length)

/-- A walk goes on behind the segments in front, unless it ends with them at a link. -/
theorem walk_append {follow : Bool} (links : Nat) (id : NodeId) (front : List String)
    {tail : List String} (goes_on : tail ≠ [] ∨ follow = true) :
    fs.walk follow links id (front ++ tail) =
      fs.descend links id front >>= fun (id, links) => fs.walk follow links id tail := by
  have follows (rest : List String) : ((rest ++ tail).isEmpty && !follow) = false := by
    rcases goes_on with more | rfl
    · simp [more]
    · simp
  fun_induction descend fs links id front with
  | case1 links id => rfl
  | case2 links id rest parent mode entries at_id ih =>
    rw [← ih, List.cons_append, walk, at_id]
    rfl
  | case3 links id rest parent mode entries at_id _ ih =>
    rw [← ih, List.cons_append, walk, at_id]
    rfl
  | case4 links id name rest parent mode entries at_id self up long =>
    rw [List.cons_append, walk, at_id]
    simp only [if_neg self, if_neg up, if_pos long]
    rfl
  | case5 links id name rest parent mode entries at_id self up short unknown =>
    rw [List.cons_append, walk, at_id]
    simp only [if_neg self, if_neg up, if_neg short, unknown]
    rfl
  | case6 id name rest parent mode entries at_id self up short child known target leads =>
    rw [List.cons_append, walk, at_id]
    simp only [if_neg self, if_neg up, if_neg short, known, leads, follows]
    rfl
  | case7 id name rest parent mode entries at_id self up short child known target leads links ih =>
    rw [← ih, List.cons_append, walk, at_id]
    simp only [if_neg self, if_neg up, if_neg short, known, leads, follows, List.append_assoc]
    rfl
  | case8 id name rest parent mode entries at_id self up short child known links no_link ih =>
    rw [← ih, List.cons_append, walk, at_id]
    simp only [if_neg self, if_neg up, if_neg short, known]
  | case9 links id name rest no_directory =>
    rw [List.cons_append, walk]
    split
    · exact absurd ‹_› (no_directory _ _ _)
    · rfl

/-- A walk that follows a link at its end leads where further segments would be walked from. -/
theorem walk_true (links : Nat) (id : NodeId) (names : List String) :
    fs.walk true links id names = (fs.descend links id names).map Prod.fst := by
  have parts := @walk_append fs true links id names [] (.inr rfl)
  rw [List.append_nil] at parts
  rw [parts]
  cases fs.descend links id names with
  | error error => rfl
  | ok place => simp [walk, Except.map, bind, Except.bind]

/-- A node is a directory. -/
def IsDirectory (fs : FileSystem) (id : NodeId) : Prop :=
  ∃ parent mode entries, fs.node? id = some (.directory parent mode entries)

/-- A directory is taken for itself, and what is none is not. -/
theorem walk_self_eq_ok {follow : Bool} {links : Nat} {id place : NodeId} :
    fs.walk follow links id ["."] = .ok place ↔ place = id ∧ fs.IsDirectory id := by
  rw [walk]
  cases at_id : fs.node? id with
  | none => simp [IsDirectory, at_id]
  | some node =>
    cases node with
    | directory parent mode entries => simp [IsDirectory, at_id, walk, eq_comm]
    | _ => simp [IsDirectory, at_id]

/-- What stands behind some segments is reached through a directory. -/
theorem walk_cons_ok {follow : Bool} {links : Nat} {id place : NodeId} {name : String}
    {rest : List String} (reached : fs.walk follow links id (name :: rest) = .ok place) :
    fs.IsDirectory id ∧ (name = "." ∨ name = ".." ∨
      ¬ nameMax < name.utf8ByteSize ∧ ∃ child, fs.entry? id name = some child) := by
  rw [walk] at reached
  cases at_id : fs.node? id with
  | none => simp [at_id] at reached
  | some node =>
    cases node with
    | directory parent mode entries =>
      refine ⟨⟨parent, mode, entries, at_id⟩, ?_⟩
      by_cases self : name = "."
      · exact .inl self
      by_cases up : name = ".."
      · exact .inr (.inl up)
      refine .inr (.inr ?_)
      simp only [at_id, if_neg self, if_neg up] at reached
      by_cases long : nameMax < name.utf8ByteSize
      · rw [if_pos long] at reached
        cases reached
      rw [if_neg long] at reached
      refine ⟨long, ?_⟩
      unfold entry?
      rw [at_id]
      cases known : entries.lookup name with
      | none => simp [known] at reached
      | some child => exact ⟨child, known⟩
    | _ => simp [at_id] at reached

/-- Some segments lead to a directory. -/
theorem walk_front_eq_ok {links : Nat} {id dir : NodeId} {front : List String} :
    fs.walk true links id (front ++ ["."]) = .ok dir ↔
      ∃ left, fs.descend links id front = .ok (dir, left) ∧ fs.IsDirectory dir := by
  rw [walk_append links id front (.inl (List.cons_ne_nil _ _))]
  cases fs.descend links id front with
  | error error => simp [bind, Except.bind]
  | ok place =>
    show fs.walk true place.2 place.1 ["."] = .ok dir ↔ _
    rw [walk_self_eq_ok]
    constructor
    · rintro ⟨rfl, directory⟩
      exact ⟨place.2, rfl, directory⟩
    · rintro ⟨left, ⟨⟩, directory⟩
      exact ⟨rfl, directory⟩

/-- A step to a name that a directory does not have leads nowhere. -/
theorem walk_absent {follow : Bool} {links : Nat} {dir : NodeId} {name : String}
    (rest : List String) (directory : fs.IsDirectory dir) (no_self : name ≠ ".")
    (no_up : name ≠ "..") (short : ¬ nameMax < name.utf8ByteSize)
    (free : fs.entry? dir name = none) : fs.walk follow links dir (name :: rest) = .error absent := by
  obtain ⟨parent, mode, entries, at_dir⟩ := directory
  unfold entry? at free
  rw [at_dir] at free
  rw [walk, at_dir]
  simp only [if_neg no_self, if_neg no_up, if_neg short, free]

/-- A step into a directory goes on from what the directory names, if that is no link. -/
theorem walk_enter {follow : Bool} {links : Nat} {dir child : NodeId} {name : String}
    {rest : List String} (entry : fs.entry? dir name = some child) (no_self : name ≠ ".")
    (no_up : name ≠ "..") (short : ¬ nameMax < name.utf8ByteSize)
    (plain : ∀ target, fs.node? child ≠ some (.link target)) :
    fs.walk follow links dir (name :: rest) = fs.walk follow links child rest := by
  unfold entry? at entry
  split at entry
  · rw [walk, ‹fs.node? dir = _›]
    simp only [if_neg no_self, if_neg no_up, if_neg short, entry]
  · cases entry

/-- The errors of segments that lead nowhere. -/
theorem error_of_descend {links : Nat} {id : NodeId} {names : List String} {error : SystemError}
    (failed : fs.descend links id names = .error error) :
    error ∈ [absent, notADirectory, tooLong, loops] := by
  fun_induction descend fs links id names with
  | case1 => cases failed
  | case2 links id rest parent mode entries at_id ih => exact ih failed
  | case3 links id rest parent mode entries at_id _ ih => exact ih failed
  | case7 id name rest parent mode entries at_id self up short child known target leads links ih =>
    exact ih failed
  | case8 id name rest parent mode entries at_id self up short child known links no_link ih =>
    exact ih failed
  | _ =>
    obtain rfl := Except.error.inj failed
    simp

/-- Nothing has the name of what is not found on the way. -/
theorem descend_eq_absent {links : Nat} {id : NodeId} {front : List String} {error : SystemError}
    (failed : fs.walk true links id (front ++ ["."]) = .error error)
    (missing : error.errorKind = .notFound) : fs.descend links id front = .error absent := by
  rw [walk_append _ _ _ (.inl (List.cons_ne_nil _ _))] at failed
  cases led : fs.descend links id front with
  | error other =>
    rw [led] at failed
    obtain rfl := Except.error.inj failed
    have listed := error_of_descend led
    simp only [List.mem_cons, List.not_mem_nil, or_false] at listed
    rcases listed with rfl | rfl | rfl | rfl
    · rfl
    all_goals cases missing
  | ok reached =>
    rw [led] at failed
    change fs.walk true reached.2 reached.1 ["."] = .error error at failed
    rw [walk] at failed
    split at failed
    · rw [if_pos rfl, walk] at failed
      cases failed
    · obtain rfl := Except.error.inj failed
      cases missing

end ThresholdDaemon.FileSystem
