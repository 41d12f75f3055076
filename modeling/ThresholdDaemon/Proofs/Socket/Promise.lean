import ThresholdDaemon.Proofs.Socket.Tree

/-!
# What preparing a socket promises

Whatever preparing a socket comes to, it only adds directories for their owner alone, and preparing
it again adds nothing more. The promise that the directory of the socket is there is kept unless
something that is no directory stands in its place, or in the place of one that leads to it: that is
passed over in silence.
-/
namespace ThresholdDaemon.SocketPath

open FileSystem

variable {fs later : FileSystem} {socket : SocketPath} {parent : List Char}

/-- What preparing a socket comes to. -/
structure Prepares (socket : SocketPath) (fs later : FileSystem)
    (result : Except PrepareError Unit) : Prop where
  /-- Only directories for their owner alone are added. -/
  grows : Grows directoryMode fs later
  /-- Preparing the socket again adds nothing. -/
  again : (socket.prepare later).1 = later
  /-- The path is in no directory exactly if that is the error. -/
  missingParent : ∀ path,
    result = .error (.missingParent path) ↔ path = socket.path ∧ socket.parent? = none
  /-- A name alone needs no directory. -/
  bare : socket.parent? = some [] → later = fs ∧ result = .ok ()
  /-- Preparing succeeds where the parent is a directory afterwards, and succeeds again. -/
  kept : ∀ parent, socket.parent? = some parent → later.directoryAt (String.ofList parent) = true →
    result = .ok () ∧ socket.prepare later = (later, .ok ())
  /-- Preparing succeeds where it is none as well, if something that is no directory is in the
  way. -/
  passed : ∀ parent, socket.parent? = some parent → parent ≠ [] →
    later.directoryAt (String.ofList parent) = false →
    Blocked directoryMode fs later (ancestors (parent.length + 1) parent) → result = .ok ()
  /-- Otherwise the error is that the parent cannot be made. -/
  fails : ∀ parent, socket.parent? = some parent → parent ≠ [] →
    later.directoryAt (String.ofList parent) = false →
    ¬ Blocked directoryMode fs later (ancestors (parent.length + 1) parent) →
    ∃ error, result = .error (.createDirectory (String.ofList parent) error)

/-- A socket without a parent cannot be prepared. -/
theorem prepares_of_orphan (orphan : socket.parent? = none) :
    socket.Prepares fs fs (.error (.missingParent socket.path)) where
  grows := .refl _ fs
  again := by
    unfold prepare
    rw [orphan]
  missingParent path := by
    constructor
    · intro same
      cases same
      exact ⟨rfl, orphan⟩
    · rintro ⟨rfl, -⟩
      rfl
  bare above := nomatch orphan.symm.trans above
  kept _ above := nomatch orphan.symm.trans above
  passed _ above := nomatch orphan.symm.trans above
  fails _ above := nomatch orphan.symm.trans above

/-- A socket that is named alone is prepared. -/
theorem prepares_of_bare (above : socket.parent? = some []) : socket.Prepares fs fs (.ok ()) where
  grows := .refl _ fs
  again := by rw [prepare_of_bare above]
  missingParent path := by simp [above]
  bare _ := ⟨rfl, rfl⟩
  kept _ _ _ := ⟨rfl, prepare_of_bare above⟩
  passed _ _ _ _ _ := rfl
  fails parent other some_parent := absurd (Option.some.inj (other.symm.trans above)) some_parent

section Parent

variable (above : socket.parent? = some parent) (some_parent : parent ≠ [])

include above

/-- A socket cannot be prepared if its directories cannot be made, unless something is there
already. -/
theorem prepare_of_failed {error : SystemError}
    (failed : fs.makeDirectories directoryMode parent = (later, .error error)) :
    socket.prepare fs = (later, if error.errorKind = .alreadyExists then .ok ()
      else .error (.createDirectory (String.ofList parent) error)) := by
  unfold prepare
  rw [above]
  simp only [failed]
  split <;> rfl

/-- What making directories adds is what preparing adds, and it adds nothing when it is done
again. -/
theorem settled_of_makeDirectories {result : Except SystemError Unit}
    (made : fs.makeDirectories directoryMode parent = (later, result)) :
    Grows directoryMode fs later ∧ (socket.prepare later).1 = later := by
  have grows := grows_makeTree fs directoryMode (ancestors (parent.length + 1) parent)
  have again := makeTree_again (pairwise_ancestors (parent.length + 1) parent) made
  unfold makeDirectories at made
  rw [made] at grows
  exact ⟨grows, (prepare_fst above).trans again⟩

include some_parent

/-- A socket is prepared if its directories are made, and the last of them is there. -/
theorem prepares_of_made (made : fs.makeDirectories directoryMode parent = (later, .ok ())) :
    socket.Prepares fs later (.ok ()) := by
  have there : later.directoryAt (String.ofList parent) = true := by
    unfold makeDirectories at made
    rw [ancestors_succ _ some_parent] at made
    exact directoryAt_of_makeTree made
  obtain ⟨grows, again⟩ := settled_of_makeDirectories above made
  refine ⟨grows, again, by simp [above], by simp [above, some_parent], fun other same _ => ?_,
    fun _ _ _ _ _ => rfl, fun other same _ no_directory => ?_⟩
  · exact ⟨rfl, prepare_of_directoryAt above there⟩
  · obtain rfl := Option.some.inj (above.symm.trans same)
    cases no_directory.symm.trans there

/-- A socket whose directories cannot be made is without the last of them, and nothing is said of
what is in the way. -/
theorem prepares_of_failed {error : SystemError}
    (failed : fs.makeDirectories directoryMode parent = (later, .error error)) :
    socket.Prepares fs later (if error.errorKind = .alreadyExists then .ok ()
      else .error (.createDirectory (String.ofList parent) error)) := by
  have under := pairwise_ancestors (parent.length + 1) parent
  obtain ⟨grows, again⟩ := settled_of_makeDirectories above failed
  unfold makeDirectories at failed
  have blocked := errorKind_eq_alreadyExists_iff under failed
  have no_directory : later.directoryAt (String.ofList parent) = false := by
    rw [ancestors_succ _ some_parent] at under failed
    exact directoryAt_of_makeTree_error under failed
  refine ⟨grows, again, fun path => ?_, by simp [above, some_parent], fun other same there => ?_,
    fun other same _ _ way => ?_, fun other same _ _ free => ?_⟩
  · simp only [above, reduceCtorEq, and_false, iff_false]
    split <;> nofun
  all_goals obtain rfl := Option.some.inj (above.symm.trans same)
  · cases no_directory.symm.trans there
  · rw [if_pos (blocked.mpr way)]
  · rw [if_neg fun exists_already => free (blocked.mp exists_already)]
    exact ⟨error, rfl⟩

end Parent

/-- What preparing a socket comes to, for every path and every file system. -/
theorem prepare_outcome (socket : SocketPath) (fs : FileSystem) :
    socket.Prepares fs (socket.prepare fs).1 (socket.prepare fs).2 := by
  cases above : socket.parent? with
  | none =>
    have failed : socket.prepare fs = (fs, .error (.missingParent socket.path)) := by
      unfold prepare
      rw [above]
    rw [failed]
    exact prepares_of_orphan above
  | some parent =>
    by_cases empty : parent = []
    · subst empty
      rw [prepare_of_bare above]
      exact prepares_of_bare above
    · cases made : fs.makeDirectories directoryMode parent with
      | mk later result =>
        cases result with
        | ok =>
          rw [prepare_of_made above made]
          exact prepares_of_made above empty made
        | error error =>
          rw [prepare_of_failed above made]
          exact prepares_of_failed above empty made

/-- A root with a file in it. -/
def filedRoot : FileSystem where
  nodes := [.directory 0 0o755 [("f", 1)], .file]

/-- The file in the root is in the way of a directory. -/
theorem obstructed_filedRoot (mode : Nat) : filedRoot.Obstructed mode ['f'] := by
  have ends : filedRoot.ending "f" = .ok (.named 0 "f" false) :=
    ending_bare (checkPath_eq_ok_iff.mpr (by decide +kernel)) (by decide +kernel)
      (by decide +kernel) (by decide +kernel) (by decide) (by decide) (by decide) ⟨_, _, _, rfl⟩
  have found : filedRoot.find "f" = .ok 1 := find_of_ending ends fun _ child target entry => by
    obtain rfl := Option.some.inj entry
    nofun
  constructor
  · show filedRoot.makeDirectory mode "f" = _
    unfold makeDirectory
    rw [ends]
    rfl
  · show filedRoot.directoryAt "f" = _
    unfold directoryAt
    rw [found]
    rfl

/-- Success does not always mean that the directory of the socket is there. -/
theorem not_directoryAt_of_prepare :
    ¬ ∀ (socket : SocketPath) (fs : FileSystem) (parent : List Char),
      socket.parent? = some parent → (socket.prepare fs).2 = .ok () →
        parent = [] ∨ (socket.prepare fs).1.directoryAt (String.ofList parent) = true := by
  intro every
  have above : (SocketPath.mk "f/acp.sock").parent? = some ['f'] := by decide +kernel
  have obstructed := obstructed_filedRoot directoryMode
  have failed : filedRoot.makeDirectories directoryMode ['f'] = (filedRoot, .error present) := by
    unfold makeDirectories
    rw [ancestors_succ _ (by simp), obstructed.makeTree]
  have prepared := prepare_of_failed above failed
  rcases every _ _ _ above (by rw [prepared]; rfl) with bare | there
  · cases bare
  · rw [prepared] at there
    exact nomatch obstructed.2.symm.trans there

end ThresholdDaemon.SocketPath
