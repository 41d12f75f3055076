import ThresholdDaemon.FileSystem.Calls
import ThresholdDaemon.Proofs.FileSystem.Path
import ThresholdDaemon.Proofs.FileSystem.Walk

/-!
# Ends of paths

What is found at a path that ends at a name is what the directory names by it, so the calls that
make and remove names act on what the calls that look for them find.
-/
namespace ThresholdDaemon.FileSystem

variable {fs : FileSystem} {path : String}

/-- The segments of a path that say something. -/
def names (path : String) : List String :=
  ((segments '/' path.toList).filter (· ≠ [])).map String.ofList

/-- A path ends in a slash. -/
def endsInSlash (path : String) : Bool := (segments '/' path.toList).getLast? = some []

/-- The steps of a path are its names, and one more if it ends in a slash. -/
theorem steps_eq (path : String) :
    steps path = if endsInSlash path then names path ++ ["."] else names path := by
  unfold steps endsInSlash
  simp only [decide_eq_true_eq]
  rfl

/-- Every path takes a step. -/
theorem steps_ne_nil (path : String) : steps path ≠ [] := by
  rw [steps_eq]
  cases slash : endsInSlash path with
  | true => simp
  | false =>
    intro none
    have silent : (segments '/' path.toList).filter (· ≠ []) = [] := List.map_eq_nil_iff.mp none
    obtain ⟨last, ends⟩ := Option.ne_none_iff_exists'.mp
      fun nothing => segments_ne_nil '/' path.toList (List.getLast?_eq_none_iff.mp nothing)
    have empty : last = [] := by
      have found := List.filter_eq_nil_iff.mp silent last (List.mem_of_getLast? ends)
      simpa using found
    rw [endsInSlash, ends, empty] at slash
    cases slash

/-- Where a path ends, told by its names. -/
theorem ending_of_checked (checked : checkPath path = .ok ()) :
    fs.ending path =
      (names path).getLast?.elim (.ok .unnamed) fun name =>
        fs.walk true linkMax (fs.startOf fs.current path) ((names path).dropLast ++ ["."]) >>=
          fun directory =>
            if name = "." || name = ".." then .ok .unnamed
            else if nameMax < name.utf8ByteSize then .error tooLong
            else .ok (.named directory name (endsInSlash path)) := by
  unfold ending
  rw [checked]
  unfold names
  simp only [bind, Except.bind]
  cases (((segments '/' path.toList).filter (· ≠ [])).map String.ofList).getLast? <;> rfl

/-- Where a path without names ends. -/
theorem ending_of_names_eq_nil (checked : checkPath path = .ok ()) (silent : names path = []) :
    fs.ending path = .ok .unnamed := by
  rw [ending_of_checked checked, silent]
  rfl

/-- Where a path ends whose names in front of the last lead to a directory. -/
theorem ending_eq {front : List String} {name : String} {dir : NodeId} {left : Nat}
    (checked : checkPath path = .ok ()) (whole : names path = front ++ [name])
    (led : fs.descend linkMax (fs.startOf fs.current path) front = .ok (dir, left))
    (directory : fs.IsDirectory dir) :
    fs.ending path =
      if name = "." || name = ".." then .ok .unnamed
      else if nameMax < name.utf8ByteSize then .error tooLong
      else .ok (.named dir name (endsInSlash path)) := by
  have walked := walk_front_eq_ok.mpr ⟨left, led, directory⟩
  rw [ending_of_checked checked, whole, List.getLast?_concat, List.dropLast_concat, Option.elim_some,
    walked]
  rfl

/-- A path does not end anywhere whose names in front of the last do not lead to a directory. -/
theorem ending_eq_error {front : List String} {name : String} {error : SystemError}
    (checked : checkPath path = .ok ()) (whole : names path = front ++ [name])
    (walked : fs.walk true linkMax (fs.startOf fs.current path) (front ++ ["."]) = .error error) :
    fs.ending path = .error error := by
  rw [ending_of_checked checked, whole, List.getLast?_concat, List.dropLast_concat, Option.elim_some,
    walked]
  rfl

/-- A path ends at a name exactly if all in front of the name leads to a directory. -/
theorem ending_eq_named {dir : NodeId} {name : String} {slash : Bool} :
    fs.ending path = .ok (.named dir name slash) ↔
      checkPath path = .ok () ∧ slash = endsInSlash path ∧ name ≠ "." ∧ name ≠ ".." ∧
        ¬ nameMax < name.utf8ByteSize ∧ fs.IsDirectory dir ∧
        ∃ front left, names path = front ++ [name] ∧
          fs.descend linkMax (fs.startOf fs.current path) front = .ok (dir, left) := by
  constructor
  · intro ends
    cases checked : checkPath path with
    | error error => simp [ending, checked, bind, Except.bind] at ends
    | ok =>
      cases last : (names path).getLast? with
      | none =>
        rw [ending_of_names_eq_nil checked (List.getLast?_eq_none_iff.mp last)] at ends
        cases ends
      | some other =>
        obtain ⟨front, whole⟩ := List.getLast?_eq_some_iff.mp last
        cases walked : fs.walk true linkMax (fs.startOf fs.current path) (front ++ ["."]) with
        | error error =>
          rw [ending_eq_error checked whole walked] at ends
          cases ends
        | ok place =>
          obtain ⟨left, led, directory⟩ := walk_front_eq_ok.mp walked
          rw [ending_eq checked whole led directory] at ends
          by_cases unnamed : other = "." || other = ".."
          · rw [if_pos unnamed] at ends
            cases ends
          rw [if_neg unnamed] at ends
          by_cases long : nameMax < other.utf8ByteSize
          · rw [if_pos long] at ends
            cases ends
          rw [if_neg long] at ends
          cases ends
          simp only [Bool.or_eq_true, decide_eq_true_eq, not_or] at unnamed
          exact ⟨rfl, rfl, unnamed.1, unnamed.2, long, directory, front, left, whole, led⟩
  · rintro ⟨checked, rfl, no_self, no_up, short, directory, front, left, whole, led⟩
    rw [ending_eq checked whole led directory]
    simp [no_self, no_up, short]

/-- A name alone ends in the current directory. -/
theorem ending_bare {name : String} (checked : checkPath name = .ok ()) (bare : names name = [name])
    (no_slash : endsInSlash name = false) (relative : name.toList.head? ≠ some '/')
    (no_self : name ≠ ".") (no_up : name ≠ "..") (short : ¬ nameMax < name.utf8ByteSize)
    (directory : fs.IsDirectory fs.current) :
    fs.ending name = .ok (.named fs.current name false) := by
  have led : fs.descend linkMax (fs.startOf fs.current name) [] = .ok (fs.current, linkMax) := by
    rw [startOf, if_neg relative, descend]
  exact ending_eq_named.mpr
    ⟨checked, no_slash.symm, no_self, no_up, short, directory, [], linkMax, bare, led⟩

/-- A path whose names all lead somewhere ends at something, if it ends at a name. -/
theorem ending_of_walk {place : NodeId} (checked : checkPath path = .ok ())
    (led : fs.walk true linkMax (fs.startOf fs.current path) (names path) = .ok place) :
    fs.ending path = .ok .unnamed ∨
      ∃ dir name slash, fs.ending path = .ok (.named dir name slash) ∧
        ∃ child, fs.entry? dir name = some child := by
  cases last : (names path).getLast? with
  | none => exact .inl (ending_of_names_eq_nil checked (List.getLast?_eq_none_iff.mp last))
  | some name =>
    obtain ⟨front, whole⟩ := List.getLast?_eq_some_iff.mp last
    rw [whole, walk_append _ _ _ (.inl (List.cons_ne_nil _ _))] at led
    cases inner : fs.descend linkMax (fs.startOf fs.current path) front with
    | error error => simp [inner, bind, Except.bind] at led
    | ok reached =>
      rw [inner] at led
      obtain ⟨directory, known⟩ := walk_cons_ok led
      have ends := ending_eq checked whole inner directory
      rcases known with rfl | rfl | ⟨short, entry⟩
      · exact .inl ends
      · exact .inl ends
      · by_cases unnamed : name = "." || name = ".."
        · exact .inl (ends.trans (if_pos unnamed))
        · rw [if_neg unnamed, if_neg short] at ends
          exact .inr ⟨_, _, _, ends, entry⟩

/-- A step into a directory takes what the directory names, unless that is a link to follow. -/
theorem walk_named {follow : Bool} {links : Nat} {dir : NodeId} {name : String}
    (directory : fs.IsDirectory dir) (no_self : name ≠ ".") (no_up : name ≠ "..")
    (short : ¬ nameMax < name.utf8ByteSize)
    (plain : follow = true → ∀ child target, fs.entry? dir name = some child →
      fs.node? child ≠ some (.link target)) :
    fs.walk follow links dir [name] =
      match fs.entry? dir name with
      | some child => .ok child
      | none => .error absent := by
  obtain ⟨parent, mode, entries, at_dir⟩ := directory
  have entry : fs.entry? dir name = entries.lookup name := by
    unfold entry?
    rw [at_dir]
  rw [entry] at plain ⊢
  rw [walk, at_dir]
  simp only [if_neg no_self, if_neg no_up, if_neg short]
  cases known : entries.lookup name with
  | none => rfl
  | some child =>
    simp only
    split
    · next target leads =>
      cases follow with
      | true => exact absurd leads (plain rfl child target known)
      | false => rfl
    · rw [walk]

/-- What is found at a path that ends at a name is what the directory names by it. -/
theorem find_of_ending {follow : Bool} {dir : NodeId} {name : String}
    (ends : fs.ending path = .ok (.named dir name false))
    (plain : follow = true → ∀ child target, fs.entry? dir name = some child →
      fs.node? child ≠ some (.link target)) :
    fs.find path follow =
      match fs.entry? dir name with
      | some child => .ok child
      | none => .error absent := by
  obtain ⟨checked, slash, no_self, no_up, short, directory, front, left, whole, led⟩ :=
    ending_eq_named.mp ends
  have walked : fs.walk follow linkMax (fs.startOf fs.current path) (front ++ [name]) =
      fs.walk follow left dir [name] := by
    rw [walk_append _ _ _ (.inl (List.cons_ne_nil _ _)), led]
    rfl
  unfold find
  rw [checked, steps_eq, ← slash, if_neg Bool.false_ne_true, whole]
  exact walked.trans (walk_named directory no_self no_up short plain)

/-- What the last step finds and is no link is also what it finds behind all links. -/
theorem walk_true_of_walk_last {links : Nat} {dir id : NodeId} {name : String}
    (found : fs.walk false links dir [name] = .ok id)
    (plain : ∀ target, fs.node? id ≠ some (.link target)) :
    fs.walk true links dir [name] = .ok id := by
  by_cases self : name = "."
  · subst self
    exact walk_self_eq_ok.mpr (walk_self_eq_ok.mp found)
  by_cases up : name = ".."
  · subst up
    rw [walk] at found ⊢
    split at found
    · simpa [walk] using found
    · cases found
  obtain ⟨directory, known⟩ := walk_cons_ok found
  obtain ⟨short, -⟩ := (known.resolve_left self).resolve_left up
  have seen : fs.walk false links dir [name] = _ :=
    walk_named directory self up short fun never => absurd never Bool.false_ne_true
  rw [seen] at found
  have same : ∀ child, fs.entry? dir name = some child → child = id := by
    intro child entry
    rw [entry] at found
    exact Except.ok.inj found
  rw [walk_named directory self up short fun _ child target entry => same child entry ▸ plain target]
  exact found

/-- What is at a path itself and is no link is also what is found behind all links. -/
theorem find_true_of_find {id : NodeId} (found : fs.find path false = .ok id)
    (plain : ∀ target, fs.node? id ≠ some (.link target)) : fs.find path = .ok id := by
  unfold find at found ⊢
  cases checked : checkPath path with
  | error error => simp [checked, bind, Except.bind] at found
  | ok =>
    rw [checked] at found
    change fs.walk false linkMax _ (steps path) = .ok id at found
    show fs.walk true linkMax _ (steps path) = .ok id
    rw [← List.dropLast_concat_getLast (steps_ne_nil path),
      walk_append _ _ _ (.inl (List.cons_ne_nil _ _))] at found ⊢
    cases led : fs.descend linkMax (fs.startOf fs.current path) (steps path).dropLast with
    | error error => simp [led, bind, Except.bind] at found
    | ok place =>
      rw [led] at found
      exact walk_true_of_walk_last found plain

/-- A path can go to the system if it is neither empty nor too long, and no zero is in it. -/
theorem checkPath_eq_ok_iff :
    checkPath path = .ok () ↔
      path.toList.contains '\x00' = false ∧ path.isEmpty = false ∧ path.utf8ByteSize < pathMax := by
  unfold checkPath
  cases path.toList.contains '\x00' with
  | true => simp
  | false =>
    cases path.isEmpty with
    | true => simp
    | false => simp

/-- Something is found only at a path that can go to the system. -/
theorem checkPath_of_find {follow : Bool} {id : NodeId} (found : fs.find path follow = .ok id) :
    checkPath path = .ok () := by
  unfold find at found
  cases checked : checkPath path with
  | error error => simp [checked, bind, Except.bind] at found
  | ok => rfl

/-- Nothing is found at the empty path. -/
theorem isEmpty_of_find {follow : Bool} {id : NodeId} (found : fs.find path follow = .ok id) :
    path.isEmpty = false :=
  (checkPath_eq_ok_iff.mp (checkPath_of_find found)).2.1

/-- Whether a socket at a path can be connected to is up to the address and to who is behind it. -/
theorem connectTo_eq {id : NodeId} {endpoint : Endpoint} (found : fs.find path false = .ok id)
    (at_id : fs.node? id = some (.socket endpoint)) :
    fs.connectTo path =
      checkAddress path >>= fun _ =>
        match endpoint with
        | .listening => .ok id
        | .datagram => .error wrongType
        | .closed => .error refused := by
  have behind := find_true_of_find found (by simp [at_id])
  unfold connectTo
  rw [behind, isEmpty_of_find found]
  cases checkAddress path with
  | error error => rfl
  | ok => cases endpoint <;> simp [bind, Except.bind, at_id, pure, Except.pure]

end ThresholdDaemon.FileSystem
