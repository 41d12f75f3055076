import ThresholdDaemon.FileSystem
import ThresholdDaemon.FileSystem.Path
import ThresholdDaemon.SystemError

/-!
# From paths to nodes

A path is walked segment by segment from the root or the current directory. Whatever is followed
by a further segment has to be a directory, and a slash at the end is such a segment too. Links on
the way are always followed, a link at the end only on demand, and more than forty links are taken
for a loop.
-/
namespace ThresholdDaemon.FileSystem

/-- Nothing has the name. -/
def absent : SystemError := .code 2

/-- The name is taken. -/
def present : SystemError := .code 17

/-- What should be a directory is none. -/
def notADirectory : SystemError := .code 20

/-- What should be no directory is one. -/
def isADirectory : SystemError := .code 21

/-- A name or path is too long. -/
def tooLong : SystemError := .code 36

/-- Too many links. -/
def loops : SystemError := .code 40

/-- A path that goes to the system holds no zero. -/
def zeroInName : SystemError :=
  .described .invalidInput "file name contained an unexpected NUL byte"

/-- The most bytes of a name. -/
def nameMax : Nat := 255

/-- One more than the most bytes of a path. -/
def pathMax : Nat := 4096

/-- The most links that a walk follows. -/
def linkMax : Nat := 40

/-- The segments of a path that say something; a slash at the end asks for a directory. -/
def steps (path : String) : List String :=
  let all := segments '/' path.toList
  let names := (all.filter (· ≠ [])).map String.ofList
  if all.getLast? = some [] then names ++ ["."] else names

/-- Where a path starts. -/
def startOf (fs : FileSystem) (directory : NodeId) (path : String) : NodeId :=
  if path.toList.head? = some '/' then fs.root else directory

/-- Walk some segments from a node, with at most `links` links on the way. -/
def walk (fs : FileSystem) (followLast : Bool) : (links : Nat) → NodeId → List String →
    Except SystemError NodeId
  | _, id, [] => .ok id
  | links, id, name :: rest =>
    match fs.node? id with
    | some (.directory parent _ entries) =>
      if name = "." then walk fs followLast links id rest
      else if name = ".." then walk fs followLast links parent rest
      else if nameMax < name.utf8ByteSize then .error tooLong
      else
        match entries.lookup name with
        | none => .error absent
        | some child =>
          match fs.node? child, links with
          | some (.link target), links =>
            if rest.isEmpty && !followLast then .ok child
            else
              match links with
              | 0 => .error loops
              | links + 1 =>
                walk fs followLast links (fs.startOf id target) (steps target ++ rest)
          | _, links => walk fs followLast links child rest
    | _ => .error notADirectory
termination_by links _ names => (links, names.length)

/-- A path that can go to the system. -/
def checkPath (path : String) : Except SystemError Unit :=
  if path.toList.contains '\x00' then .error zeroInName
  else if path.isEmpty then .error absent
  else if pathMax ≤ path.utf8ByteSize then .error tooLong
  else .ok ()

/-- The node at a path. -/
def find (fs : FileSystem) (path : String) (followLast : Bool := true) :
    Except SystemError NodeId := do
  checkPath path
  fs.walk followLast linkMax (fs.startOf fs.current path) (steps path)

/-- Where a path ends. -/
inductive Ending where
  /-- At a name in a directory, perhaps with a slash behind it. -/
  | named (directory : NodeId) (name : String) (slash : Bool)
  /-- At a directory that it does not name: the root, the directory itself or its parent. -/
  | unnamed
  deriving DecidableEq, Repr

/-- Where a path ends; everything in front of its last name is walked. -/
def ending (fs : FileSystem) (path : String) : Except SystemError Ending := do
  checkPath path
  let all := segments '/' path.toList
  let names := (all.filter (· ≠ [])).map String.ofList
  match names.getLast? with
  | none => return .unnamed
  | some name =>
    let directory ← fs.walk true linkMax (fs.startOf fs.current path) (names.dropLast ++ ["."])
    if name = "." || name = ".." then return .unnamed
    else if nameMax < name.utf8ByteSize then .error tooLong
    else return .named directory name (all.getLast? = some [])

end ThresholdDaemon.FileSystem
