import ThresholdDaemon.Proofs.FileSystem.Keeps
import ThresholdDaemon.Socket.Directory

/-!
# Directories of sockets

What leads to the parent of a path leads towards the path as well. So if a path can be reached up to
its parent, the directories of a socket at the path are there and preparing them changes nothing;
and if preparing them changes anything, nothing has been at the path.
-/
namespace ThresholdDaemon

namespace FileSystem

variable {fs : FileSystem}

/-- The segments of a text that say something. -/
def spoken (parts : List (List Char)) : List String := (parts.filter (· ≠ [])).map String.ofList

/-- A text without segments says nothing. -/
theorem spoken_append (front behind : List (List Char)) :
    spoken (front ++ behind) = spoken front ++ spoken behind := by
  unfold spoken
  rw [List.filter_append, List.map_append]

/-- The names of a path are spoken behind the root. -/
theorem names_ofList (absolute : Bool) (text : List Char) :
    names (String.ofList (if absolute then '/' :: text else text)) = spoken (segments '/' text) := by
  unfold names spoken
  rw [String.toList_ofList]
  cases absolute with
  | true =>
    rw [if_pos rfl, segments_separator, List.filter_cons_of_neg (by simp)]
  | false => rfl

/-- The names of a path come behind the root. -/
theorem names_eq_spoken (path : String) :
    names path = spoken (segments '/' (textMarks.body path.toList)) := by
  have whole : String.ofList (if textMarks.isAbsolute path.toList then
      '/' :: textMarks.body path.toList else textMarks.body path.toList) = path :=
    (congrArg String.ofList (textMarks.eq_body path.toList).symm).trans String.ofList_toList
  rw [← names_ofList (textMarks.isAbsolute path.toList), whole]

/-- Segments that say nothing name a directory itself. -/
theorem eq_self_of_mem_spoken {parts : List (List Char)}
    (silent : ∀ part ∈ parts, textMarks.IsSilent part) : ∀ name ∈ spoken parts, name = "." := by
  intro name member
  obtain ⟨part, kept, rfl⟩ := List.mem_map.mp member
  obtain ⟨listed, some_part⟩ := List.mem_filter.mp kept
  rcases silent part listed with rfl | rfl
  · simp at some_part
  · rfl

/-- The names of a path without a parent all stand for a directory itself. -/
theorem eq_self_of_parent?_eq_none {path : String} (orphan : textMarks.parent? path.toList = none) :
    ∀ name ∈ names path, name = "." := by
  rw [names_eq_spoken]
  exact eq_self_of_mem_spoken (Marks.silent_of_parent?_eq_none orphan)

/-- The names of a path are those of its parent and its last name, among names for a directory
itself. -/
theorem exists_names_eq {path : String} {parent : List Char}
    (above : textMarks.parent? path.toList = some parent) :
    parent <+: path.toList ∧ ∃ silent last behind,
      names path = names (String.ofList parent) ++ (silent ++ last :: behind) ∧
        (∀ name ∈ silent, name = ".") ∧ ∀ name ∈ behind, name = "." := by
  obtain ⟨front, silent, last, behind, parts, silent_silent, behind_silent, some_name, rfl⟩ :=
    Marks.exists_of_parent?_eq_some above
  have whole := textMarks.eq_body path.toList
  have text : joined '/' front <+: textMarks.body path.toList := by
    have prefixes := joined_isPrefix '/' front (silent ++ last :: behind)
    rw [← List.append_assoc, ← parts] at prefixes
    exact (joined_segments '/' (textMarks.body path.toList)) ▸ prefixes
  have inside : ∀ part ∈ front, '/' ∉ part := by
    intro part member
    have listed : part ∈ segments '/' (textMarks.body path.toList) := by
      rw [show segments '/' (textMarks.body path.toList) = _ from parts]
      simp [member]
    exact notMem_of_mem_segments listed
  have front_names : spoken (segments '/' (joined '/' front)) = spoken front := by
    cases front with
    | nil => rfl
    | cons first more => rw [segments_joined (List.cons_ne_nil _ _) inside]
  refine ⟨?_, spoken silent, String.ofList last, spoken behind, ?_,
    eq_self_of_mem_spoken silent_silent, eq_self_of_mem_spoken behind_silent⟩
  · by_cases absolute : textMarks.isAbsolute path.toList
    · rw [if_pos absolute] at whole ⊢
      rw [whole]
      exact List.cons_prefix_cons.mpr ⟨rfl, text⟩
    · rw [if_neg absolute] at whole ⊢
      rw [whole]
      exact text
  · have named : spoken (last :: behind) = String.ofList last :: spoken behind := by
      unfold spoken
      rw [List.filter_cons_of_pos (by simpa using some_name), List.map_cons]
    have parent_names := names_ofList (textMarks.isAbsolute path.toList) (joined '/' front)
    rw [front_names] at parent_names
    rw [names_eq_spoken path, show segments '/' (textMarks.body path.toList) = _ from parts,
      spoken_append, spoken_append, named, List.append_assoc]
    exact congrArg (· ++ _) parent_names.symm

/-- What a path that can go to the system starts with can go there too. -/
theorem checkPath_of_isPrefix {path : String} {parent : List Char}
    (front : parent <+: path.toList) (some_parent : parent ≠ [])
    (checked : checkPath path = .ok ()) : checkPath (String.ofList parent) = .ok () := by
  obtain ⟨rest, whole⟩ := front
  have parts : path = String.ofList parent ++ String.ofList rest := by
    rw [← String.ofList_append, whole, String.ofList_toList]
  have size : (String.ofList parent).utf8ByteSize ≤ path.utf8ByteSize := by
    rw [parts, String.utf8ByteSize_append]
    exact Nat.le_add_right _ _
  obtain ⟨clean, -, short⟩ := checkPath_eq_ok_iff.mp checked
  refine checkPath_eq_ok_iff.mpr ⟨?_, by simpa using some_parent, Nat.lt_of_le_of_lt size short⟩
  rw [String.toList_ofList]
  rw [← whole] at clean
  simp_all

/-- What a path starts with starts where the path does. -/
theorem startOf_of_isPrefix {path : String} {parent : List Char} (front : parent <+: path.toList)
    (some_parent : parent ≠ []) (id : NodeId) :
    fs.startOf id (String.ofList parent) = fs.startOf id path := by
  obtain ⟨rest, whole⟩ := front
  obtain ⟨first, more, rfl⟩ := List.exists_cons_of_ne_nil some_parent
  unfold startOf
  rw [← whole, String.toList_ofList]
  rfl

/-- A directory is made exactly where the path ends at a name that is free. -/
theorem makeDirectory_eq_ok {path : String} {mode : Nat} {later : FileSystem} :
    fs.makeDirectory mode path = .ok later ↔
      ∃ dir name slash, fs.ending path = .ok (.named dir name slash) ∧ fs.entry? dir name = none ∧
        later = (fs.addNode dir name (.directory dir mode [])).1 := by
  constructor
  · intro made
    unfold makeDirectory at made
    cases ends : fs.ending path with
    | error error => simp [ends, bind, Except.bind] at made
    | ok ending =>
      rw [ends] at made
      cases ending with
      | unnamed => cases made
      | named dir name slash =>
        simp only [bind, Except.bind] at made
        split at made
        · cases made
        · next unknown => exact ⟨dir, name, slash, rfl, unknown, (Except.ok.inj made).symm⟩
  · rintro ⟨dir, name, slash, ends, unknown, rfl⟩
    unfold makeDirectory
    rw [ends]
    simp only [bind, Except.bind, unknown]
    rfl

/-- A directory is not made where the path ends nowhere, or where it ends at what is there. -/
theorem ending_of_makeDirectory_error {path : String} {mode : Nat} {error : SystemError}
    (failed : fs.makeDirectory mode path = .error error) :
    fs.ending path = .error error ∨ error = present ∧ ∃ ending, fs.ending path = .ok ending := by
  cases ends : fs.ending path with
  | error other =>
    unfold makeDirectory at failed
    rw [ends] at failed
    exact .inl (congrArg Except.error (Except.error.inj failed))
  | ok ending =>
    refine .inr ⟨?_, ending, rfl⟩
    unfold makeDirectory at failed
    rw [ends] at failed
    cases ending with
    | unnamed => exact (Except.error.inj failed).symm
    | named dir name slash =>
      simp only [bind, Except.bind] at failed
      split at failed
      · exact (Except.error.inj failed).symm
      · cases failed

/-- Where further segments have led to is a directory at the path in front of them. -/
theorem directoryAt_of_walk {follow : Bool} {path : String} {tail : List String} {place : NodeId}
    (checked : checkPath path = .ok ()) (more : tail ≠ [])
    (walked : fs.walk follow linkMax (fs.startOf fs.current path) (names path ++ tail) = .ok place) :
    fs.directoryAt path = true := by
  obtain ⟨name, rest, rfl⟩ := List.exists_cons_of_ne_nil more
  rw [walk_append _ _ _ (.inl more)] at walked
  cases led : fs.descend linkMax (fs.startOf fs.current path) (names path) with
  | error error => simp [led, bind, Except.bind] at walked
  | ok reached =>
    rw [led] at walked
    obtain ⟨parent, mode, entries, at_dir⟩ := (walk_cons_ok walked).1
    have steps_led : fs.walk true linkMax (fs.startOf fs.current path) (steps path) =
        .ok reached.1 := by
      rw [steps_eq]
      cases endsInSlash path with
      | true => exact walk_front_eq_ok.mpr ⟨reached.2, led, parent, mode, entries, at_dir⟩
      | false =>
        rw [if_neg Bool.false_ne_true, walk_true, led]
        rfl
    have found : fs.find path = .ok reached.1 := by
      unfold find
      rw [checked]
      exact steps_led
    unfold directoryAt
    simp only [found, at_dir, Node.kind, decide_true]

/-- A directory is at a path exactly if the names of the path lead to one. -/
theorem directoryAt_iff {path : String} :
    fs.directoryAt path = true ↔ checkPath path = .ok () ∧ ∃ dir left,
      fs.descend linkMax (fs.startOf fs.current path) (names path) = .ok (dir, left) ∧
        fs.IsDirectory dir := by
  constructor
  · intro there
    unfold directoryAt at there
    cases found : fs.find path with
    | error error => simp [found] at there
    | ok dir =>
      simp only [found] at there
      have directory : fs.IsDirectory dir := by
        cases at_dir : fs.node? dir with
        | none => simp [at_dir] at there
        | some node =>
          cases node with
          | directory parent mode entries => exact ⟨parent, mode, entries, at_dir⟩
          | _ => simp [at_dir, Node.kind] at there
      have checked := checkPath_of_find found
      refine ⟨checked, ?_⟩
      unfold find at found
      rw [checked] at found
      change fs.walk true linkMax (fs.startOf fs.current path) (steps path) = .ok dir at found
      rw [steps_eq] at found
      cases slash : endsInSlash path with
      | true =>
        rw [slash, if_pos rfl] at found
        obtain ⟨left, led, -⟩ := walk_front_eq_ok.mp found
        exact ⟨dir, left, led, directory⟩
      | false =>
        rw [slash, if_neg Bool.false_ne_true, walk_true] at found
        cases led : fs.descend linkMax (fs.startOf fs.current path) (names path) with
        | error error => simp [led, Except.map] at found
        | ok reached =>
          rw [led] at found
          obtain rfl := Except.ok.inj found
          exact ⟨reached.1, reached.2, rfl, directory⟩
  · rintro ⟨checked, dir, left, led, directory⟩
    exact directoryAt_of_walk checked (List.cons_ne_nil "." [])
      (walk_front_eq_ok.mpr ⟨left, led, directory⟩)

/-- Where a directory is, none is made. -/
theorem makeDirectory_of_directoryAt {path : String} {mode : Nat}
    (there : fs.directoryAt path = true) :
    fs.makeDirectory mode path = .error present := by
  obtain ⟨checked, dir, left, led, -⟩ := directoryAt_iff.mp there
  have whole : fs.walk true linkMax (fs.startOf fs.current path) (names path) = .ok dir := by
    rw [walk_true, led]
    rfl
  unfold makeDirectory
  rcases ending_of_walk checked whole with unnamed | ⟨dir, name, slash, ends, child, known⟩
  · rw [unnamed]
    rfl
  · rw [ends]
    simp only [bind, Except.bind, known]

/-- There is nothing to do for a directory that is there, whatever leads to it. -/
theorem makeTree_of_directoryAt {path : List Char} {mode : Nat} {above : List (List Char)}
    (there : fs.directoryAt (String.ofList path) = true) :
    fs.makeTree mode (path :: above) = (fs, .ok ()) := by
  rw [makeTree]
  simp only [makeDirectory_of_directoryAt there, there]
  rfl

/-- What each directory that is made keeps is kept when one is made with all that lead to it. -/
theorem makeTree_keeps {holds : FileSystem → Prop} {mode : Nat}
    (makes : ∀ {fs later : FileSystem} {path : String}, holds fs →
      fs.makeDirectory mode path = .ok later → holds later)
    (paths : List (List Char)) (start : holds fs) : holds (fs.makeTree mode paths).1 := by
  induction paths with
  | nil => exact start
  | cons path above ih =>
    rw [makeTree]
    cases first : fs.makeDirectory mode (String.ofList path) with
    | ok later => exact makes start first
    | error error =>
      by_cases missing : error.errorKind = .notFound
      · simp only [if_pos missing]
        cases tree : fs.makeTree mode above with
        | mk reached result =>
          rw [tree] at ih
          cases result with
          | error error => exact ih
          | ok =>
            simp only
            cases second : reached.makeDirectory mode (String.ofList path) with
            | ok later => exact makes ih second
            | error error => exact ih
      · simp only [if_neg missing]
        exact start

/-- Nothing is behind a directory that can be made. -/
theorem walk_of_makeDirectory_ok {path : String} {mode : Nat} {later : FileSystem} (follow : Bool)
    (tail : List String) (made : fs.makeDirectory mode path = .ok later) :
    fs.walk follow linkMax (fs.startOf fs.current path) (names path ++ tail) = .error absent := by
  obtain ⟨dir, name, slash, ends, unknown, -⟩ := makeDirectory_eq_ok.mp made
  obtain ⟨-, -, no_self, no_up, short, directory, front, left, whole, led⟩ := ending_eq_named.mp ends
  rw [whole, List.append_assoc, List.singleton_append,
    walk_append _ _ _ (.inl (List.cons_ne_nil _ _)), led]
  exact walk_absent tail directory no_self no_up short unknown

/-- Nothing is behind a directory that cannot be made because something on the way is missing. -/
theorem walk_of_makeDirectory_error {path : String} {mode : Nat} {error : SystemError}
    (follow : Bool) (tail : List String) (checked : checkPath path = .ok ())
    (failed : fs.makeDirectory mode path = .error error) (missing : error.errorKind = .notFound) :
    fs.walk follow linkMax (fs.startOf fs.current path) (names path ++ tail) = .error absent := by
  have ends : fs.ending path = .error error := by
    rcases ending_of_makeDirectory_error failed with unreached | ⟨rfl, -⟩
    · exact unreached
    · cases missing
  cases last : (names path).getLast? with
  | none =>
    rw [ending_of_names_eq_nil checked (List.getLast?_eq_none_iff.mp last)] at ends
    cases ends
  | some name =>
    obtain ⟨front, whole⟩ := List.getLast?_eq_some_iff.mp last
    have unreached : ∃ other, other.errorKind = .notFound ∧
        fs.walk true linkMax (fs.startOf fs.current path) (front ++ ["."]) = .error other := by
      cases walked : fs.walk true linkMax (fs.startOf fs.current path) (front ++ ["."]) with
      | error other =>
        rw [ending_eq_error checked whole walked] at ends
        exact ⟨other, Except.error.inj ends ▸ missing, rfl⟩
      | ok dir =>
        obtain ⟨left, led, directory⟩ := walk_front_eq_ok.mp walked
        rw [ending_eq checked whole led directory] at ends
        split at ends
        · cases ends
        split at ends
        · obtain rfl := Except.error.inj ends
          cases missing
        · cases ends
    obtain ⟨other, other_missing, walked⟩ := unreached
    rw [whole, List.append_assoc, List.singleton_append,
      walk_append _ _ _ (.inl (List.cons_ne_nil _ _)), descend_eq_absent walked other_missing]
    rfl

/-- Only a path that can go to the system ends anywhere. -/
theorem checkPath_of_ending {path : String} {ending : Ending} (ends : fs.ending path = .ok ending) :
    checkPath path = .ok () := by
  cases checked : checkPath path with
  | error error => simp [FileSystem.ending, checked, bind, Except.bind] at ends
  | ok => rfl

/-- What leads up to a path that ends somewhere leads to a directory. -/
theorem walk_of_ending {path : String} {ending : Ending} (ends : fs.ending path = .ok ending)
    (named : names path ≠ []) :
    ∃ dir, fs.walk true linkMax (fs.startOf fs.current path) ((names path).dropLast ++ ["."]) =
      .ok dir := by
  obtain ⟨name, last⟩ := Option.ne_none_iff_exists'.mp fun none =>
    named (List.getLast?_eq_none_iff.mp none)
  rw [ending_of_checked (checkPath_of_ending ends), last, Option.elim_some] at ends
  cases walked : fs.walk true linkMax (fs.startOf fs.current path)
      ((names path).dropLast ++ ["."]) with
  | error error => simp [walked, bind, Except.bind] at ends
  | ok dir => exact ⟨dir, rfl⟩

/-- A path is under another: the other is a directory wherever the one is a directory or ends
anywhere. -/
def Under (path above : List Char) : Prop :=
  ∀ fs : FileSystem, fs.directoryAt (String.ofList path) = true ∨
      (∃ ending, fs.ending (String.ofList path) = .ok ending) →
    fs.directoryAt (String.ofList above) = true

/-- What is under something is under all that this is under. -/
theorem Under.trans {path between above : List Char} (first : Under path between)
    (second : Under between above) : Under path above :=
  fun fs there => second fs (.inl (first fs there))

/-- Every path is under its parent. -/
theorem under_of_parent? {path parent : List Char} (above : textMarks.parent? path = some parent)
    (some_parent : parent ≠ []) : Under path parent := by
  intro fs there
  have same : (String.ofList path).toList = path := String.toList_ofList
  rw [← same] at above
  obtain ⟨front, silent, last, behind, parts, -⟩ := exists_names_eq above
  have starts : fs.startOf fs.current (String.ofList parent) =
      fs.startOf fs.current (String.ofList path) := startOf_of_isPrefix front some_parent fs.current
  rcases there with directory | ⟨ending, ends⟩
  · obtain ⟨checked, dir, left, led, is_directory⟩ := directoryAt_iff.mp directory
    have walked := walk_front_eq_ok.mpr ⟨left, led, is_directory⟩
    rw [parts, List.append_assoc, ← starts] at walked
    exact directoryAt_of_walk (checkPath_of_isPrefix front some_parent checked) (by simp) walked
  · have named : names (String.ofList path) ≠ [] := by
      rw [parts]
      simp
    obtain ⟨dir, walked⟩ := walk_of_ending ends named
    rw [parts, List.dropLast_append_of_ne_nil (by simp), List.append_assoc, ← starts] at walked
    exact directoryAt_of_walk (checkPath_of_isPrefix front some_parent (checkPath_of_ending ends))
      (by simp) walked

/-- The path itself is the first of the paths that lead to it, and its parent leads to it with all
that lead there. -/
theorem ancestors_succ (fuel : Nat) {path : List Char} (some_path : path ≠ []) :
    ancestors (fuel + 1) path = path :: (textMarks.parent? path).elim [] (ancestors fuel) := by
  obtain ⟨first, rest, rfl⟩ := List.exists_cons_of_ne_nil some_path
  unfold ancestors
  cases textMarks.parent? (first :: rest) <;> rfl

end FileSystem

namespace SocketPath

open FileSystem

variable {fs : FileSystem} {socket : SocketPath}

/-- Preparing a socket does to the files what making the directories does. -/
theorem prepare_fst {parent : List Char} (above : socket.parent? = some parent) :
    (socket.prepare fs).1 = (fs.makeDirectories directoryMode parent).1 := by
  unfold prepare
  simp only [above]
  split
  · next made => rw [made]
  · next made =>
    rw [made]
    split <;> rfl

/-- A socket is prepared if its directories are made. -/
theorem prepare_of_made {later : FileSystem} {parent : List Char}
    (above : socket.parent? = some parent)
    (made : fs.makeDirectories directoryMode parent = (later, .ok ())) :
    socket.prepare fs = (later, .ok ()) := by
  unfold prepare
  rw [above]
  simp only [made]

/-- Where the socket has no directory to be in, there is nothing to do. -/
theorem prepare_of_bare (above : socket.parent? = some []) : socket.prepare fs = (fs, .ok ()) :=
  prepare_of_made above rfl

/-- Where the directory of a socket is there, there is nothing to do. -/
theorem prepare_of_directoryAt {parent : List Char} (above : socket.parent? = some parent)
    (there : fs.directoryAt (String.ofList parent) = true) : socket.prepare fs = (fs, .ok ()) := by
  by_cases empty : parent = []
  · exact prepare_of_bare (empty ▸ above)
  · have made : fs.makeDirectories directoryMode parent = (fs, .ok ()) := by
      unfold makeDirectories
      rw [ancestors_succ parent.length empty, makeTree_of_directoryAt there]
    exact prepare_of_made above made

/-- The directories of a socket are there if its path ends at a name in one. -/
theorem prepare_of_ending {dir : NodeId} {name : String} {slash : Bool}
    (ends : fs.ending socket.path = .ok (.named dir name slash)) :
    socket.prepare fs = (fs, .ok ()) := by
  cases above : socket.parent? with
  | none =>
    obtain ⟨-, -, no_self, -, -, -, front, left, whole, -⟩ := ending_eq_named.mp ends
    refine absurd ?_ no_self
    exact eq_self_of_parent?_eq_none above name (by simp [whole])
  | some parent =>
    by_cases empty : parent = []
    · exact prepare_of_bare (empty ▸ above)
    · have same : String.ofList socket.path.toList = socket.path := String.ofList_toList
      exact prepare_of_directoryAt above
        (under_of_parent? above empty fs (.inr ⟨_, same ▸ ends⟩))

/-- Nothing has been at the path of a socket if a directory is made for it. -/
theorem find_of_prepare_ne (checked : checkPath socket.path = .ok ()) (follow : Bool)
    (changes : (socket.prepare fs).1 ≠ fs) : fs.find socket.path follow = .error absent := by
  cases above : socket.parent? with
  | none =>
    unfold prepare at changes
    simp [above] at changes
  | some parent =>
    rw [prepare_fst above] at changes
    by_cases empty : parent = []
    · subst empty
      exact absurd rfl changes
    obtain ⟨front, silent, last, behind, parts, -⟩ := exists_names_eq above
    have parent_checked := checkPath_of_isPrefix front empty checked
    have unreached (tail : List String) : fs.walk follow linkMax
        (fs.startOf fs.current socket.path) (names (String.ofList parent) ++ tail) =
          .error absent := by
      rw [← startOf_of_isPrefix front empty]
      cases made : fs.makeDirectory directoryMode (String.ofList parent) with
      | ok later => exact walk_of_makeDirectory_ok follow tail made
      | error error =>
        by_cases missing : error.errorKind = .notFound
        · exact walk_of_makeDirectory_error follow tail parent_checked made missing
        · refine absurd ?_ changes
          unfold makeDirectories
          rw [ancestors_succ parent.length empty, makeTree]
          simp only [made, if_neg missing]
    unfold find
    rw [checked, steps_eq, parts]
    cases slash : endsInSlash socket.path with
    | false => exact unreached _
    | true =>
      rw [if_pos rfl, List.append_assoc]
      exact unreached _

/-- What new nodes keep is kept when the directories of a socket are made. -/
theorem prepare_keeps {holds : FileSystem → Prop}
    (adds : ∀ fs dir name node, holds fs → holds (fs.addNode dir name node).1) (start : holds fs) :
    holds (socket.prepare fs).1 := by
  cases above : socket.parent? with
  | none =>
    unfold prepare
    rwa [above]
  | some parent =>
    rw [prepare_fst above]
    refine makeTree_keeps (fun {before later path} kept made => ?_) _ start
    obtain ⟨dir, name, slash, -, -, rfl⟩ := makeDirectory_eq_ok.mp made
    exact adds before dir name _ kept

end SocketPath

end ThresholdDaemon
