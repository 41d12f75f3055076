import ThresholdDaemon.Json.Print
import ThresholdDaemon.Json.Typed

/-!
# Socket paths

The daemon listens on a Unix socket, which is named by its path alone or by the path behind the
scheme `unix://`. A text with any other scheme names no socket. The written form always has the
scheme, so it names the same path when it is read again.
-/
namespace ThresholdDaemon

/-- The path of a Unix socket. -/
structure SocketPath where
  /-- The path as given. -/
  path : String
  deriving DecidableEq, Repr, Inhabited

/-- Why a text names no socket. -/
inductive SocketPathError where
  /-- The text has another scheme. -/
  | unsupportedScheme (scheme : String)
  /-- There is no path in the text. -/
  | missingPath (text : String)
  deriving DecidableEq, Repr

/-- The text of the error. -/
def SocketPathError.message : SocketPathError → String
  | unsupportedScheme scheme =>
    "unsupported socket scheme '" ++ scheme ++ "'; only unix sockets are served"
  | missingPath text => "missing Unix socket path in '" ++ text ++ "'"

namespace SocketPath

/-- The characters of the scheme. -/
def scheme : List Char := "unix://".toList

/-- What separates a scheme from what it applies to. -/
def separator : List Char := "://".toList

/-- The text behind a beginning, if it has that beginning. -/
def behind? : (beginning text : List Char) → Option (List Char)
  | [], text => some text
  | _ :: _, [] => none
  | c :: beginning, d :: text => if c = d then behind? beginning text else none

/-- The text in front of the first separator, if there is one. -/
def foreignScheme? (text : List Char) : Option (List Char) :=
  if (behind? separator text).isSome then some []
  else
    match text with
    | [] => none
    | c :: rest => (foreignScheme? rest).map (c :: ·)

/-- The path in a text. -/
def pathChars (text : List Char) : Except SocketPathError (List Char) :=
  match behind? scheme text with
  | some path => .ok path
  | none =>
    match foreignScheme? text with
    | some found => .error (.unsupportedScheme (String.ofList found))
    | none => .ok text

/-- The socket that a text names. -/
def parse (text : String) : Except SocketPathError SocketPath := do
  match ← pathChars text.toList with
  | [] => .error (.missingPath text)
  | path => .ok ⟨String.ofList path⟩

/-- The written form of a socket path. -/
def render (socket : SocketPath) : String := String.ofList scheme ++ socket.path

/-- A socket path in a document is its path. -/
def read : Json.Reader SocketPath := SocketPath.mk <$> Json.Reader.textNamed "a UTF-8 path string"

/-- The path as a text of a document. -/
def print (socket : SocketPath) : List Char := Json.Literal.print socket.path

end SocketPath

end ThresholdDaemon
