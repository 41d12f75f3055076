/-!
# File systems

A file system is a list of nodes: directories with named entries, files, links to a path, and the
ends of sockets. A node keeps its number for good, also when no directory names it any more, so
whoever holds the number still holds the node.
-/
namespace ThresholdDaemon

/-- The number of a node. -/
abbrev NodeId := Nat

/-- What is behind a socket file. -/
inductive Endpoint where
  /-- Nobody: its owner has gone. -/
  | closed
  /-- A listener. -/
  | listening
  /-- The receiver of single messages. -/
  | datagram
  deriving DecidableEq, Repr

/-- A node. -/
inductive Node where
  /-- A directory with its parent, its permissions and its entries. -/
  | directory (parent : NodeId) (mode : Nat) (entries : List (String × NodeId))
  /-- A file. -/
  | file
  /-- A link to a path. -/
  | link (target : String)
  /-- A socket. -/
  | socket (endpoint : Endpoint)
  deriving DecidableEq, Repr

/-- The kinds of nodes. -/
inductive NodeKind where
  /-- A directory. -/
  | directory
  /-- A file. -/
  | file
  /-- A link. -/
  | link
  /-- A socket. -/
  | socket
  deriving DecidableEq, Repr

/-- The kind of a node. -/
def Node.kind : Node → NodeKind
  | directory .. => .directory
  | file => .file
  | link _ => .link
  | socket _ => .socket

/-- A file system and the directory that relative paths start from. -/
structure FileSystem where
  /-- The nodes, each at the place of its number. -/
  nodes : List Node
  /-- The root. -/
  root : NodeId := 0
  /-- The directory that relative paths start from. -/
  current : NodeId := 0
  deriving DecidableEq, Repr

namespace FileSystem

/-- A file system with an empty root. -/
def empty : FileSystem := { nodes := [.directory 0 0o755 []] }

/-- The node with a number. -/
def node? (fs : FileSystem) (id : NodeId) : Option Node := fs.nodes[id]?

/-- Replace a node. -/
def setNode (fs : FileSystem) (id : NodeId) (node : Node) : FileSystem :=
  { fs with nodes := fs.nodes.set id node }

/-- What a directory names by a name. -/
def entry? (fs : FileSystem) (directory : NodeId) (name : String) : Option NodeId :=
  match fs.node? directory with
  | some (.directory _ _ entries) => entries.lookup name
  | _ => none

/-- Add a node under a name. -/
def addNode (fs : FileSystem) (directory : NodeId) (name : String) (node : Node) :
    FileSystem × NodeId :=
  let id := fs.nodes.length
  match fs.node? directory with
  | some (.directory parent mode entries) =>
    let fs := { fs with nodes := fs.nodes ++ [node] }
    (fs.setNode directory (.directory parent mode (entries ++ [(name, id)])), id)
  | _ => (fs, id)

/-- Take a name out of a directory. -/
def removeEntry (fs : FileSystem) (directory : NodeId) (name : String) : FileSystem :=
  match fs.node? directory with
  | some (.directory parent mode entries) =>
    fs.setNode directory (.directory parent mode (entries.filter fun (other, _) => other ≠ name))
  | _ => fs

end FileSystem

end ThresholdDaemon
