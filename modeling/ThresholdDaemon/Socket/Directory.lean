import ThresholdDaemon.FileSystem.Calls
import ThresholdDaemon.Socket.Path

/-!
# The directory of a socket

Before a socket is bound the directories that lead to it are made, for their owner alone. The root
and the empty path are in no directory. Whatever stands in the place of the last directory already
is left as it is.
-/
namespace ThresholdDaemon

/-- Why the directory of a socket cannot be prepared. -/
inductive PrepareError where
  /-- The path is in no directory. -/
  | missingParent (path : String)
  /-- A directory cannot be made. -/
  | createDirectory (path : String) (error : SystemError)
  deriving DecidableEq, Repr

/-- The text of the error. -/
def PrepareError.message : PrepareError → String
  | missingParent path => "socket path '" ++ path ++ "' has no parent directory"
  | createDirectory path error =>
    "failed to create socket directory '" ++ path ++ "': " ++ error.message

namespace SocketPath

/-- The permissions of new directories: everything for the owner, nothing for others. -/
def directoryMode : Nat := 0o700

/-- The directory of a socket. -/
def parent? (socket : SocketPath) : Option (List Char) :=
  FileSystem.textMarks.parent? socket.path.toList

/-- Make the directories that lead to a socket. -/
def prepare (socket : SocketPath) (fs : FileSystem) : FileSystem × Except PrepareError Unit :=
  match socket.parent? with
  | none => (fs, .error (.missingParent socket.path))
  | some parent =>
    match fs.makeDirectories directoryMode parent with
    | (fs, .ok ()) => (fs, .ok ())
    | (fs, .error error) =>
      if error.errorKind = .alreadyExists then (fs, .ok ())
      else (fs, .error (.createDirectory (String.ofList parent) error))

end SocketPath

end ThresholdDaemon
