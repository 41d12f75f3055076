import ThresholdDaemon.FileSystem

/-!
# Listings

A listing names everything below a directory, a directory in front of what is in it and the
entries of each directory in the order of their names.
-/
namespace ThresholdDaemon.FileSystem

/-- What is below a directory: the path from it, and the number and value of each node; directories
nested deeper than `fuel` are left out. -/
def listingFrom (fs : FileSystem) : (fuel : Nat) → (path : String) → NodeId →
    List (String × NodeId × Node)
  | 0, _, _ => []
  | fuel + 1, path, id =>
    match fs.node? id with
    | some (.directory _ _ entries) =>
      (entries.mergeSort fun a b => a.1 ≤ b.1).flatMap fun (name, child) =>
        match fs.node? child with
        | none => []
        | some node =>
          let path := if path.isEmpty then name else path ++ "/" ++ name
          (path, child, node) :: listingFrom fs fuel path child
    | _ => []

/-- What is below the current directory. -/
def listing (fs : FileSystem) : List (String × NodeId × Node) :=
  fs.listingFrom fs.nodes.length "" fs.current

end ThresholdDaemon.FileSystem
