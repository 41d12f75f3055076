import ThresholdDaemon.Proofs.FileSystem.Grows
import ThresholdDaemon.Proofs.Socket.Directory

/-!
# Trees of directories

Making a directory with all that lead to it goes up until something can be made or stands in the
way, and comes down again. So it is known where it stops if it fails, and making the same directories
again adds nothing.
-/
namespace ThresholdDaemon.FileSystem

variable {fs later : FileSystem} {mode : Nat}

/-- A path that ends nowhere does not tell that something is there. -/
theorem errorKind_of_ending {path : String} {error : SystemError}
    (unreached : fs.ending path = .error error) : error.errorKind ≠ .alreadyExists := by
  cases checked : checkPath path with
  | error other =>
    have same : other = error := by
      rw [ending, checked] at unreached
      exact Except.error.inj unreached
    subst same
    unfold checkPath at checked
    split at checked
    · obtain rfl := Except.error.inj checked
      decide
    split at checked
    · obtain rfl := Except.error.inj checked
      decide
    split at checked
    · obtain rfl := Except.error.inj checked
      decide
    · cases checked
  | ok =>
    rw [ending_of_checked checked] at unreached
    cases last : (names path).getLast? with
    | none => simp [last] at unreached
    | some name =>
      rw [last, Option.elim_some] at unreached
      cases led : fs.walk true linkMax (fs.startOf fs.current path)
          ((names path).dropLast ++ ["."]) with
      | error other =>
        rw [led] at unreached
        obtain rfl := Except.error.inj unreached
        rw [walk_true] at led
        cases descended : fs.descend linkMax (fs.startOf fs.current path)
            ((names path).dropLast ++ ["."]) with
        | ok place => simp [descended, Except.map] at led
        | error found =>
          rw [descended] at led
          obtain rfl := Except.error.inj led
          have listed := error_of_descend descended
          simp only [List.mem_cons, List.not_mem_nil, or_false] at listed
          rcases listed with rfl | rfl | rfl | rfl <;> decide
      | ok dir =>
        rw [led] at unreached
        simp only [bind, Except.bind] at unreached
        split at unreached
        · cases unreached
        split at unreached
        · obtain rfl := Except.error.inj unreached
          decide
        · cases unreached

/-- A directory that is made is at its path. -/
theorem directoryAt_of_makeDirectory {path : String}
    (made : fs.makeDirectory mode path = .ok later) : later.directoryAt path = true := by
  obtain ⟨dir, name, slash, ends, unknown, rfl⟩ := makeDirectory_eq_ok.mp made
  have keeps : fs.Keeps (fs.addNode dir name (.directory dir mode [])).1 := keeps_addNode dir name _
  obtain ⟨checked, -, no_self, no_up, short, ⟨parent, own, entries, at_dir⟩, front, left, whole, led⟩ :=
    ending_eq_named.mp ends
  have entry := entry_addNode_self at_dir name (.directory dir mode []) unknown
  have at_new := node?_addNode_new at_dir name (.directory dir mode [])
  have no_link (target : String) :
      FileSystem.node? (fs.addNode dir name (.directory dir mode [])).1 fs.nodes.length ≠
        some (.link target) := by
    rw [at_new]
    exact nofun
  have led_later := keeps.descend led ⟨parent, own, entries, at_dir⟩
  have reached : FileSystem.walk (fs.addNode dir name (.directory dir mode [])).1 true left dir
      [name, "."] = .ok fs.nodes.length := by
    rw [walk_enter entry no_self no_up short no_link]
    exact walk_self_eq_ok.mpr ⟨rfl, dir, mode, [], at_new⟩
  have walked : FileSystem.walk (fs.addNode dir name (.directory dir mode [])).1 true linkMax
      (fs.startOf fs.current path) (names path ++ ["."]) = .ok fs.nodes.length := by
    rw [whole, List.append_assoc, walk_append _ _ _ (.inl (by simp)), led_later]
    exact reached
  rw [← keeps.startOf, ← keeps.current] at walked
  exact directoryAt_of_walk checked (List.cons_ne_nil "." []) walked

/-- The paths that lead to a path start with the path itself. -/
theorem eq_of_mem_head?_ancestors {fuel : Nat} {path first : List Char}
    (starts : first ∈ (ancestors fuel path).head?) : first = path ∧ path ≠ [] := by
  cases fuel with
  | zero => simp [ancestors] at starts
  | succ fuel =>
    by_cases empty : path = []
    · subst empty
      simp [ancestors] at starts
    · rw [ancestors_succ fuel empty] at starts
      exact ⟨(Option.some.inj starts).symm, empty⟩

/-- Of the paths that lead to a path each is under all behind it. -/
theorem pairwise_ancestors (fuel : Nat) (path : List Char) : (ancestors fuel path).Pairwise Under := by
  induction fuel generalizing path with
  | zero => simp [ancestors]
  | succ fuel ih =>
    by_cases empty : path = []
    · subst empty
      simp [ancestors]
    rw [ancestors_succ fuel empty]
    cases above : textMarks.parent? path with
    | none => simp
    | some parent =>
      refine List.pairwise_cons.mpr ⟨fun other member => ?_, ih parent⟩
      have sorted := ih parent
      change other ∈ ancestors fuel parent at member
      cases listed : ancestors fuel parent with
      | nil => simp [listed] at member
      | cons first more =>
        obtain ⟨rfl, some_parent⟩ := eq_of_mem_head?_ancestors
          (listed ▸ rfl : first ∈ (ancestors fuel parent).head?)
        have direct := under_of_parent? above some_parent
        rw [listed] at member sorted
        rcases List.mem_cons.mp member with rfl | later
        · exact direct
        · exact direct.trans ((List.pairwise_cons.mp sorted).1 other later)

/-- Make a directory, unless there is one. -/
def provide (fs : FileSystem) (mode : Nat) (path : List Char) :
    FileSystem × Except SystemError Unit :=
  match fs.makeDirectory mode (String.ofList path) with
  | .ok later => (later, .ok ())
  | .error error => (fs, if fs.directoryAt (String.ofList path) then .ok () else .error error)

/-- A directory cannot be made because something that leads to it is missing. -/
def Missing (fs : FileSystem) (mode : Nat) (path : List Char) : Prop :=
  ∃ error, fs.makeDirectory mode (String.ofList path) = .error error ∧ error.errorKind = .notFound

variable {path : List Char} {above : List (List Char)}

/-- A directory is made if it can be. -/
theorem provide_of_made (made : fs.makeDirectory mode (String.ofList path) = .ok later) :
    fs.provide mode path = (later, .ok ()) := by
  rw [provide, made]

/-- A directory that cannot be made may be there. -/
theorem provide_of_failed {error : SystemError}
    (failed : fs.makeDirectory mode (String.ofList path) = .error error) :
    fs.provide mode path =
      (fs, if fs.directoryAt (String.ofList path) then .ok () else .error error) := by
  rw [provide, failed]

/-- What is behind a directory does not matter, unless something is missing. -/
theorem makeTree_of_not_missing (known : ¬ fs.Missing mode path) :
    fs.makeTree mode (path :: above) = fs.provide mode path := by
  rw [makeTree]
  cases made : fs.makeDirectory mode (String.ofList path) with
  | ok later => exact (provide_of_made made).symm
  | error error =>
    have kind : error.errorKind ≠ .notFound := fun missing => known ⟨error, made, missing⟩
    simp only [if_neg kind]
    exact (provide_of_failed made).symm

/-- A directory is made behind all that lead to it, if something is missing. -/
theorem makeTree_of_missing (missing : fs.Missing mode path) :
    fs.makeTree mode (path :: above) =
      match fs.makeTree mode above with
      | (reached, .ok ()) => reached.provide mode path
      | failed => failed := by
  obtain ⟨error, failed, kind⟩ := missing
  rw [makeTree]
  simp only [failed, if_pos kind]
  rcases fs.makeTree mode above with ⟨reached, error | _⟩
  · rfl
  · rfl

/-- Either a directory is there afterwards, or it cannot be made and nothing changes. -/
theorem provide_cases (fs : FileSystem) (mode : Nat) (path : List Char) :
    (∃ later, fs.provide mode path = (later, .ok ()) ∧
      later.directoryAt (String.ofList path) = true) ∨
    ∃ error, fs.provide mode path = (fs, .error error) ∧
      fs.makeDirectory mode (String.ofList path) = .error error ∧
      fs.directoryAt (String.ofList path) = false := by
  cases made : fs.makeDirectory mode (String.ofList path) with
  | ok later => exact .inl ⟨later, provide_of_made made, directoryAt_of_makeDirectory made⟩
  | error error =>
    have provided := provide_of_failed made
    cases there : fs.directoryAt (String.ofList path) with
    | true => exact .inl ⟨fs, provided.trans (by rw [if_pos there]), there⟩
    | false => exact .inr ⟨error, provided.trans (by rw [there]; rfl), rfl, rfl⟩

/-- Directories that are made with all that lead to them are added. -/
theorem grows_makeTree (fs : FileSystem) (mode : Nat) (paths : List (List Char)) :
    Grows mode fs (fs.makeTree mode paths).1 := by
  refine makeTree_keeps (fun {before later path} grows made => ?_) paths (.refl mode fs)
  obtain ⟨dir, name, slash, ends, free, rfl⟩ := makeDirectory_eq_ok.mp made
  obtain ⟨-, -, -, -, -, directory, -⟩ := ending_eq_named.mp ends
  exact grows.trans (.addNode directory free mode)

/-- A directory that is made with all that lead to it is there. -/
theorem directoryAt_of_makeTree (made : fs.makeTree mode (path :: above) = (later, .ok ())) :
    later.directoryAt (String.ofList path) = true := by
  have provided {reached : FileSystem} (given : reached.provide mode path = (later, .ok ())) :
      later.directoryAt (String.ofList path) = true := by
    rcases provide_cases reached mode path with ⟨other, done, there⟩ | ⟨error, failed, -⟩
    · obtain rfl := (Prod.mk.inj (done.symm.trans given)).1
      exact there
    · cases failed.symm.trans given
  by_cases missing : fs.Missing mode path
  · rw [makeTree_of_missing missing] at made
    cases tree : fs.makeTree mode above with
    | mk reached result =>
      rw [tree] at made
      cases result with
      | error error => cases made
      | ok => exact provided made
  · rw [makeTree_of_not_missing missing] at made
    exact provided made

/-- Making directories stops at one of them with an error. -/
structure Stops (mode : Nat) (fs later : FileSystem) (behind : List (List Char)) (path : List Char)
    (above : List (List Char)) (error : SystemError) : Prop where
  /-- For all in front of it something is missing. -/
  missing : ∀ other ∈ behind, fs.Missing mode other
  /-- It cannot be made. -/
  failed : later.makeDirectory mode (String.ofList path) = .error error
  /-- It is not there. -/
  no_directory : later.directoryAt (String.ofList path) = false
  /-- Either nothing is missing and nothing has changed, or the next one that leads to it is there. -/
  reached : later = fs ∧ ¬ fs.Missing mode path ∨
    ∀ next ∈ above.head?, later.directoryAt (String.ofList next) = true

/-- If making directories fails, it stops at one of them. -/
theorem exists_stops {paths : List (List Char)} {error : SystemError}
    (failed : fs.makeTree mode paths = (later, .error error)) :
    ∃ behind path above, paths = behind ++ path :: above ∧
      Stops mode fs later behind path above error := by
  induction paths generalizing later with
  | nil => cases failed
  | cons path above ih =>
    by_cases missing : fs.Missing mode path
    · rw [makeTree_of_missing missing] at failed
      cases tree : fs.makeTree mode above with
      | mk reached result =>
        rw [tree] at failed ih
        cases result with
        | error other =>
          -- It stops further up, so the path joins those for which something is missing.
          obtain ⟨rfl, same⟩ := Prod.mk.inj failed
          obtain rfl := Except.error.inj same
          obtain ⟨behind, stop, rest, rfl, stops⟩ := ih rfl
          refine ⟨path :: behind, stop, rest, rfl, { stops with missing := fun other member => ?_ }⟩
          rcases List.mem_cons.mp member with rfl | later
          · exact missing
          · exact stops.missing other later
        | ok =>
          rcases provide_cases reached mode path with
            ⟨other, done, -⟩ | ⟨other, done, fails, no_directory⟩
          · cases done.symm.trans failed
          · -- It stops on the way down, where the next one up has just been made or found.
            obtain ⟨rfl, same⟩ := Prod.mk.inj (done.symm.trans failed)
            obtain rfl := Except.error.inj same
            refine ⟨[], path, above, rfl, fun _ => nofun, fails, no_directory,
              .inr fun next first => ?_⟩
            obtain ⟨more, rfl⟩ := List.head?_eq_some_iff.mp first
            exact directoryAt_of_makeTree tree
    · rw [makeTree_of_not_missing missing] at failed
      rcases provide_cases fs mode path with
        ⟨other, done, -⟩ | ⟨other, done, fails, no_directory⟩
      · cases done.symm.trans failed
      · obtain ⟨rfl, same⟩ := Prod.mk.inj (done.symm.trans failed)
        obtain rfl := Except.error.inj same
        exact ⟨[], path, above, rfl, ⟨fun _ => nofun, fails, no_directory, .inl ⟨rfl, missing⟩⟩⟩

/-- All paths that lead to a directory are directories. -/
theorem directoryAt_of_mem {above : List (List Char)} (under : above.Pairwise Under)
    (there : ∀ next ∈ above.head?, fs.directoryAt (String.ofList next) = true) :
    ∀ other ∈ above, fs.directoryAt (String.ofList other) = true := by
  cases above with
  | nil => nofun
  | cons next rest =>
    intro other member
    rcases List.mem_cons.mp member with rfl | later
    · exact there other rfl
    · exact (List.pairwise_cons.mp under).1 other later fs (.inl (there next rfl))

/-- What cannot be made adds nothing in front of what adds nothing. -/
theorem makeTree_fst_of_failed {behind above : List (List Char)}
    (failing : ∀ other ∈ behind, ∃ error, fs.makeDirectory mode (String.ofList other) = .error error)
    (settled : (fs.makeTree mode above).1 = fs) : (fs.makeTree mode (behind ++ above)).1 = fs := by
  induction behind with
  | nil => exact settled
  | cons path behind ih =>
    obtain ⟨error, failed⟩ := failing path List.mem_cons_self
    have unchanged : (fs.provide mode path).1 = fs := by
      rw [provide_of_failed failed]
    have rest := ih fun other member => failing other (List.mem_cons_of_mem _ member)
    rw [List.cons_append]
    by_cases missing : fs.Missing mode path
    · rw [makeTree_of_missing missing]
      cases tree : fs.makeTree mode (behind ++ above) with
      | mk reached result =>
        rw [tree] at rest
        obtain rfl : reached = fs := rest
        cases result with
        | error error => rfl
        | ok => exact unchanged
    · rw [makeTree_of_not_missing missing]
      exact unchanged

/-- Making the same directories again adds nothing. -/
theorem makeTree_again {paths : List (List Char)} (under : paths.Pairwise Under)
    {result : Except SystemError Unit} (made : fs.makeTree mode paths = (later, result)) :
    (later.makeTree mode paths).1 = later := by
  cases result with
  | ok =>
    cases paths with
    | nil => rfl
    | cons path above => rw [makeTree_of_directoryAt (directoryAt_of_makeTree made)]
  | error error =>
    obtain ⟨behind, path, above, rfl, stops⟩ := exists_stops made
    rcases stops.reached with ⟨rfl, -⟩ | there
    · rw [made]
    · obtain ⟨-, under_path, crossed⟩ := List.pairwise_append.mp under
      have settled : (later.makeTree mode above).1 = later := by
        cases above with
        | nil => rfl
        | cons next rest => rw [makeTree_of_directoryAt (there next rfl)]
      rw [← List.singleton_append, ← List.append_assoc]
      refine makeTree_fst_of_failed (fun other member => ?_) settled
      rcases List.mem_append.mp member with first | last
      · cases again : later.makeDirectory mode (String.ofList other) with
        | error error => exact ⟨error, rfl⟩
        | ok more =>
          -- Nothing is made under what is no directory.
          obtain ⟨_, _, _, ends, -⟩ := makeDirectory_eq_ok.mp again
          have there := crossed other first path List.mem_cons_self later (.inr ⟨_, ends⟩)
          cases stops.no_directory.symm.trans there
      · obtain rfl := List.mem_singleton.mp last
        exact ⟨error, stops.failed⟩

/-- Something that is no directory is in the place of one. -/
def Obstructed (fs : FileSystem) (mode : Nat) (path : List Char) : Prop :=
  fs.makeDirectory mode (String.ofList path) = .error present ∧
    fs.directoryAt (String.ofList path) = false

/-- A path ends at what is in its way. -/
theorem Obstructed.exists_ending (obstructed : fs.Obstructed mode path) :
    ∃ ending, fs.ending (String.ofList path) = .ok ending := by
  rcases ending_of_makeDirectory_error obstructed.1 with unreached | ⟨-, ends⟩
  · exact absurd rfl (errorKind_of_ending unreached)
  · exact ends

/-- What is in the place of a directory keeps it from being made, whatever leads to it. -/
theorem Obstructed.makeTree (obstructed : fs.Obstructed mode path) :
    fs.makeTree mode (path :: above) = (fs, .error present) := by
  have known : ¬ fs.Missing mode path := by
    rintro ⟨error, failed, missing⟩
    obtain rfl := Except.error.inj (obstructed.1.symm.trans failed)
    cases missing
  rw [makeTree_of_not_missing known, provide_of_failed obstructed.1, obstructed.2]
  rfl

/-- On the way up, behind nothing but what is missing, there is something in the place of a
directory that is none. -/
def Blocked (mode : Nat) (fs later : FileSystem) (paths : List (List Char)) : Prop :=
  ∃ behind path above, paths = behind ++ path :: above ∧
    (∀ other ∈ behind, fs.Missing mode other) ∧ later.Obstructed mode path

/-- What is in the way is where the making of directories stops. -/
theorem Stops.error_eq_present {behind : List (List Char)} {error : SystemError}
    (under : (behind ++ path :: above).Pairwise Under)
    (stops : Stops mode fs later behind path above error)
    (blocked : Blocked mode fs later (behind ++ path :: above)) : error = present := by
  obtain ⟨-, under_path, crossed⟩ := List.pairwise_append.mp under
  obtain ⟨front, stop, rest, same, missing, obstructed⟩ := blocked
  have here (equal : stop = path) : error = present := by
    subst equal
    exact Except.error.inj (stops.failed.symm.trans obstructed.1)
  rcases List.append_eq_append_iff.mp same with ⟨between, rfl, split⟩ | ⟨between, rfl, split⟩
  · cases between with
    | nil => exact here (List.cons.inj split).1.symm
    | cons first between =>
      -- What is in the way leads to where it stops, and all that leads there is there.
      obtain ⟨rfl, rfl⟩ := List.cons.inj split
      rcases stops.reached with ⟨-, known⟩ | there
      · exact absurd (missing path (by simp)) known
      · have found := directoryAt_of_mem (List.pairwise_cons.mp under_path).2 there stop (by simp)
        cases obstructed.2.symm.trans found
  · cases between with
    | nil => exact here (List.cons.inj split).1
    | cons first between =>
      -- Where it stops leads to what is in the way, so it is there.
      obtain ⟨rfl, rfl⟩ := List.cons.inj split
      have found := crossed stop (by simp) path List.mem_cons_self later
        (.inr obstructed.exists_ending)
      cases stops.no_directory.symm.trans found

/-- Making directories fails because something is there already exactly if something that is no
directory is in the way. -/
theorem errorKind_eq_alreadyExists_iff {paths : List (List Char)} {error : SystemError}
    (under : paths.Pairwise Under) (failed : fs.makeTree mode paths = (later, .error error)) :
    error.errorKind = .alreadyExists ↔ Blocked mode fs later paths := by
  obtain ⟨behind, path, above, rfl, stops⟩ := exists_stops failed
  constructor
  · intro exists_already
    rcases ending_of_makeDirectory_error stops.failed with unreached | ⟨rfl, -⟩
    · exact absurd exists_already (errorKind_of_ending unreached)
    · exact ⟨behind, path, above, rfl, stops.missing, stops.failed, stops.no_directory⟩
  · intro blocked
    rw [stops.error_eq_present under blocked]
    rfl

/-- Making directories fails without the last of them being there. -/
theorem directoryAt_of_makeTree_error {error : SystemError}
    (under : (path :: above).Pairwise Under)
    (failed : fs.makeTree mode (path :: above) = (later, .error error)) :
    later.directoryAt (String.ofList path) = false := by
  obtain ⟨behind, stop, rest, parts, stops⟩ := exists_stops failed
  cases behind with
  | nil =>
    obtain ⟨rfl, -⟩ := List.cons.inj parts
    exact stops.no_directory
  | cons first behind =>
    obtain ⟨rfl, rfl⟩ := List.cons.inj parts
    cases there : later.directoryAt (String.ofList path) with
    | false => rfl
    | true =>
      have found := (List.pairwise_cons.mp under).1 stop (by simp) later (.inl there)
      cases stops.no_directory.symm.trans found

end ThresholdDaemon.FileSystem
