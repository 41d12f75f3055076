import ThresholdDaemon.FileSystem.Walk

/-!
# System calls

What the daemon asks of the file system: what is at a path, new directories, the removal of a
name, and sockets to listen at and to connect to. A call that fails leaves the file system as it
was.
-/
namespace ThresholdDaemon.FileSystem

/-- The kind of what is at a path; a link at its end is not followed. -/
def kindAt (fs : FileSystem) (path : String) : Except SystemError NodeKind := do
  let id ← fs.find path false
  match fs.node? id with
  | some node => return node.kind
  | none => .error absent

/-- There is something at a path, behind all links. -/
def existsAt (fs : FileSystem) (path : String) : Bool := (fs.find path).toOption.isSome

/-- A directory is at a path, behind all links. -/
def directoryAt (fs : FileSystem) (path : String) : Bool :=
  match fs.find path with
  | .ok id =>
    match fs.node? id with
    | some node => node.kind = .directory
    | none => false
  | .error _ => false

/-- Make a directory. -/
def makeDirectory (fs : FileSystem) (mode : Nat) (path : String) :
    Except SystemError FileSystem := do
  match ← fs.ending path with
  | .unnamed => .error present
  | .named directory name _ =>
    match fs.entry? directory name with
    | some _ => .error present
    | none => return (fs.addNode directory name (.directory directory mode [])).1

/-- The directories that lead to a path, from the path itself up; relative ones end before the
current directory. -/
def ancestors : (fuel : Nat) → List Char → List (List Char)
  | 0, _ => []
  | _, [] => []
  | fuel + 1, path =>
    match textMarks.parent? path with
    | none => [path]
    | some parent => path :: ancestors fuel parent

/-- Make a directory if there is none, once what leads to it is made. -/
def makeTree (fs : FileSystem) (mode : Nat) :
    List (List Char) → FileSystem × Except SystemError Unit
  | [] => (fs, .ok ())
  | path :: above =>
    let path := String.ofList path
    match fs.makeDirectory mode path with
    | .ok fs => (fs, .ok ())
    | .error error =>
      if error.errorKind = .notFound then
        match makeTree fs mode above with
        | (fs, .error error) => (fs, .error error)
        | (fs, .ok ()) =>
          match fs.makeDirectory mode path with
          | .ok fs => (fs, .ok ())
          | .error error => (fs, if fs.directoryAt path then .ok () else .error error)
      else (fs, if fs.directoryAt path then .ok () else .error error)

/-- Make a directory and all that lead to it. -/
def makeDirectories (fs : FileSystem) (mode : Nat) (path : List Char) :
    FileSystem × Except SystemError Unit :=
  fs.makeTree mode (ancestors (path.length + 1) path)

/-- Take away the name of what is no directory. -/
def remove (fs : FileSystem) (path : String) : Except SystemError FileSystem := do
  match ← fs.ending path with
  | .unnamed => .error isADirectory
  | .named directory name slash =>
    match fs.entry? directory name with
    | none => .error absent
    | some id =>
      match fs.node? id with
      | some (.directory ..) => .error isADirectory
      | _ => if slash then .error notADirectory else return fs.removeEntry directory name

/-- A path that can be the address of a socket. -/
def checkAddress (path : String) : Except SystemError Unit :=
  if path.toList.contains '\x00' then
    .error (.described .invalidInput "paths must not contain interior null bytes")
  else if 108 ≤ path.utf8ByteSize then
    .error (.described .invalidInput "path must be shorter than SUN_LEN")
  else .ok ()

/-- The address is taken. -/
def addressInUse : SystemError := .code 98

/-- Nobody listens. -/
def refused : SystemError := .code 111

/-- The socket is of another type. -/
def wrongType : SystemError := .code 91

/-- The address has no path. -/
def noAddress : SystemError := .code 22

/-- Make a socket at a path. -/
def bindSocket (fs : FileSystem) (endpoint : Endpoint) (path : String) :
    Except SystemError (FileSystem × NodeId) := do
  checkAddress path
  match ← fs.ending path with
  | .unnamed => .error addressInUse
  | .named directory name slash =>
    match fs.entry? directory name with
    | some _ => .error addressInUse
    | none =>
      if slash then .error absent
      else return fs.addNode directory name (.socket endpoint)

/-- Connect to the listener at a path. -/
def connectTo (fs : FileSystem) (path : String) : Except SystemError NodeId := do
  checkAddress path
  if path.isEmpty then throw noAddress
  let id ← fs.find path
  match fs.node? id with
  | some (.socket .listening) => return id
  | some (.socket .datagram) => .error wrongType
  | _ => .error refused

/-- The owner of a socket goes away. Its file stays. -/
def closeSocket (fs : FileSystem) (id : NodeId) : FileSystem :=
  match fs.node? id with
  | some (.socket _) => fs.setNode id (.socket .closed)
  | _ => fs

/-- Make a file. -/
def makeFile (fs : FileSystem) (path : String) : Except SystemError FileSystem := do
  match ← fs.ending path with
  | .unnamed => .error isADirectory
  | .named directory name _ => return (fs.addNode directory name .file).1

/-- Make a link. -/
def makeLink (fs : FileSystem) (path target : String) : Except SystemError FileSystem := do
  match ← fs.ending path with
  | .unnamed => .error present
  | .named directory name _ =>
    match fs.entry? directory name with
    | some _ => .error present
    | none => return (fs.addNode directory name (.link target)).1

end ThresholdDaemon.FileSystem
