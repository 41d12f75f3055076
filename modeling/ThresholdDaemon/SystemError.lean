/-!
# System errors

An operating-system call fails with an error number, with a kind of failure alone, or with a
fixed text of the caller's own. Every error has a kind, which is all that decisions look at,
and a text, which is all that people see.
-/
namespace ThresholdDaemon

/-- The kinds of failure that callers tell apart. -/
inductive ErrorKind where
  /-- Address in use. -/
  | addrInUse
  /-- Address not available. -/
  | addrNotAvailable
  /-- Entity already exists. -/
  | alreadyExists
  /-- Argument list too long. -/
  | argumentListTooLong
  /-- Broken pipe. -/
  | brokenPipe
  /-- Connection aborted. -/
  | connectionAborted
  /-- Connection refused. -/
  | connectionRefused
  /-- Connection reset. -/
  | connectionReset
  /-- Cross-device link or rename. -/
  | crossesDevices
  /-- Deadlock. -/
  | deadlock
  /-- Directory not empty. -/
  | directoryNotEmpty
  /-- Executable file busy. -/
  | executableFileBusy
  /-- File too large. -/
  | fileTooLarge
  /-- Filesystem loop or indirection limit (e.g. symlink loop). -/
  | filesystemLoop
  /-- Host unreachable. -/
  | hostUnreachable
  /-- In progress. -/
  | inProgress
  /-- Input/output error. -/
  | inputOutputError
  /-- Operation interrupted. -/
  | interrupted
  /-- Invalid data. -/
  | invalidData
  /-- Invalid filename. -/
  | invalidFilename
  /-- Invalid input parameter. -/
  | invalidInput
  /-- Is a directory. -/
  | isADirectory
  /-- Network down. -/
  | networkDown
  /-- Network unreachable. -/
  | networkUnreachable
  /-- Not a directory. -/
  | notADirectory
  /-- Not connected. -/
  | notConnected
  /-- Entity not found. -/
  | notFound
  /-- Seek on unseekable file. -/
  | notSeekable
  /-- Other error. -/
  | other
  /-- Out of memory. -/
  | outOfMemory
  /-- Permission denied. -/
  | permissionDenied
  /-- Quota exceeded. -/
  | quotaExceeded
  /-- Read-only filesystem or storage medium. -/
  | readOnlyFilesystem
  /-- Resource busy. -/
  | resourceBusy
  /-- Stale network file handle. -/
  | staleNetworkFileHandle
  /-- No storage space. -/
  | storageFull
  /-- Timed out. -/
  | timedOut
  /-- Too many open files. -/
  | tooManyOpenFiles
  /-- Too many links. -/
  | tooManyLinks
  /-- Uncategorized error. -/
  | uncategorized
  /-- Unexpected end of file. -/
  | unexpectedEof
  /-- Unsupported. -/
  | unsupported
  /-- Operation would block. -/
  | wouldBlock
  /-- Write zero. -/
  | writeZero
  deriving DecidableEq, Repr

namespace ErrorKind

/-- The kinds with the name each is known by and its text. -/
def table : List (ErrorKind × String × String) :=
  [(.addrInUse, "AddrInUse", "address in use"),
   (.addrNotAvailable, "AddrNotAvailable", "address not available"),
   (.alreadyExists, "AlreadyExists", "entity already exists"),
   (.argumentListTooLong, "ArgumentListTooLong", "argument list too long"),
   (.brokenPipe, "BrokenPipe", "broken pipe"),
   (.connectionAborted, "ConnectionAborted", "connection aborted"),
   (.connectionRefused, "ConnectionRefused", "connection refused"),
   (.connectionReset, "ConnectionReset", "connection reset"),
   (.crossesDevices, "CrossesDevices", "cross-device link or rename"),
   (.deadlock, "Deadlock", "deadlock"),
   (.directoryNotEmpty, "DirectoryNotEmpty", "directory not empty"),
   (.executableFileBusy, "ExecutableFileBusy", "executable file busy"),
   (.fileTooLarge, "FileTooLarge", "file too large"),
   (.filesystemLoop, "FilesystemLoop", "filesystem loop or indirection limit (e.g. symlink loop)"),
   (.hostUnreachable, "HostUnreachable", "host unreachable"),
   (.inProgress, "InProgress", "in progress"),
   (.inputOutputError, "InputOutputError", "input/output error"),
   (.interrupted, "Interrupted", "operation interrupted"),
   (.invalidData, "InvalidData", "invalid data"),
   (.invalidFilename, "InvalidFilename", "invalid filename"),
   (.invalidInput, "InvalidInput", "invalid input parameter"),
   (.isADirectory, "IsADirectory", "is a directory"),
   (.networkDown, "NetworkDown", "network down"),
   (.networkUnreachable, "NetworkUnreachable", "network unreachable"),
   (.notADirectory, "NotADirectory", "not a directory"),
   (.notConnected, "NotConnected", "not connected"),
   (.notFound, "NotFound", "entity not found"),
   (.notSeekable, "NotSeekable", "seek on unseekable file"),
   (.other, "Other", "other error"),
   (.outOfMemory, "OutOfMemory", "out of memory"),
   (.permissionDenied, "PermissionDenied", "permission denied"),
   (.quotaExceeded, "QuotaExceeded", "quota exceeded"),
   (.readOnlyFilesystem, "ReadOnlyFilesystem", "read-only filesystem or storage medium"),
   (.resourceBusy, "ResourceBusy", "resource busy"),
   (.staleNetworkFileHandle, "StaleNetworkFileHandle", "stale network file handle"),
   (.storageFull, "StorageFull", "no storage space"),
   (.timedOut, "TimedOut", "timed out"),
   (.tooManyLinks, "TooManyLinks", "too many links"),
   (.tooManyOpenFiles, "TooManyOpenFiles", "too many open files"),
   (.uncategorized, "Uncategorized", "uncategorized error"),
   (.unexpectedEof, "UnexpectedEof", "unexpected end of file"),
   (.unsupported, "Unsupported", "unsupported"),
   (.wouldBlock, "WouldBlock", "operation would block"),
   (.writeZero, "WriteZero", "write zero")]

/-- The name a kind is known by. -/
def name (kind : ErrorKind) : String :=
  ((table.find? (·.1 = kind)).map (·.2.1)).getD ""

/-- The text of a kind. -/
def description (kind : ErrorKind) : String :=
  ((table.find? (·.1 = kind)).map (·.2.2)).getD ""

/-- The kind known by a name. -/
def ofName? (text : String) : Option ErrorKind :=
  (table.find? (·.2.1 = text)).map (·.1)

/-- The kind of an error number. -/
def ofCode (code : Int) : ErrorKind :=
  match code with
  | 1 => .permissionDenied
  | 2 => .notFound
  | 4 => .interrupted
  | 5 => .inputOutputError
  | 7 => .argumentListTooLong
  | 11 => .wouldBlock
  | 12 => .outOfMemory
  | 13 => .permissionDenied
  | 16 => .resourceBusy
  | 17 => .alreadyExists
  | 18 => .crossesDevices
  | 20 => .notADirectory
  | 21 => .isADirectory
  | 22 => .invalidInput
  | 24 => .tooManyOpenFiles
  | 26 => .executableFileBusy
  | 27 => .fileTooLarge
  | 28 => .storageFull
  | 29 => .notSeekable
  | 30 => .readOnlyFilesystem
  | 31 => .tooManyLinks
  | 32 => .brokenPipe
  | 35 => .deadlock
  | 36 => .invalidFilename
  | 38 => .unsupported
  | 39 => .directoryNotEmpty
  | 40 => .filesystemLoop
  | 95 => .unsupported
  | 98 => .addrInUse
  | 99 => .addrNotAvailable
  | 100 => .networkDown
  | 101 => .networkUnreachable
  | 103 => .connectionAborted
  | 104 => .connectionReset
  | 107 => .notConnected
  | 110 => .timedOut
  | 111 => .connectionRefused
  | 113 => .hostUnreachable
  | 115 => .inProgress
  | 116 => .staleNetworkFileHandle
  | 122 => .quotaExceeded
  | _ => .uncategorized

end ErrorKind

/-- A failed call to the operating system. -/
inductive SystemError where
  /-- A kind of failure and nothing more. -/
  | kind (kind : ErrorKind)
  /-- An error number. -/
  | code (number : Int)
  /-- A kind with a fixed text. -/
  | described (kind : ErrorKind) (text : String)
  deriving DecidableEq, Repr

namespace SystemError

/-- The texts of the error numbers, in order from zero. -/
def texts : List String :=
  ["Success",
   "Operation not permitted",
   "No such file or directory",
   "No such process",
   "Interrupted system call",
   "Input/output error",
   "No such device or address",
   "Argument list too long",
   "Exec format error",
   "Bad file descriptor",
   "No child processes",
   "Resource temporarily unavailable",
   "Cannot allocate memory",
   "Permission denied",
   "Bad address",
   "Block device required",
   "Device or resource busy",
   "File exists",
   "Invalid cross-device link",
   "No such device",
   "Not a directory",
   "Is a directory",
   "Invalid argument",
   "Too many open files in system",
   "Too many open files",
   "Inappropriate ioctl for device",
   "Text file busy",
   "File too large",
   "No space left on device",
   "Illegal seek",
   "Read-only file system",
   "Too many links",
   "Broken pipe",
   "Numerical argument out of domain",
   "Numerical result out of range",
   "Resource deadlock avoided",
   "File name too long",
   "No locks available",
   "Function not implemented",
   "Directory not empty",
   "Too many levels of symbolic links",
   "Unknown error 41",
   "No message of desired type",
   "Identifier removed",
   "Channel number out of range",
   "Level 2 not synchronized",
   "Level 3 halted",
   "Level 3 reset",
   "Link number out of range",
   "Protocol driver not attached",
   "No CSI structure available",
   "Level 2 halted",
   "Invalid exchange",
   "Invalid request descriptor",
   "Exchange full",
   "No anode",
   "Invalid request code",
   "Invalid slot",
   "Unknown error 58",
   "Bad font file format",
   "Device not a stream",
   "No data available",
   "Timer expired",
   "Out of streams resources",
   "Machine is not on the network",
   "Package not installed",
   "Object is remote",
   "Link has been severed",
   "Advertise error",
   "Srmount error",
   "Communication error on send",
   "Protocol error",
   "Multihop attempted",
   "RFS specific error",
   "Bad message",
   "Value too large for defined data type",
   "Name not unique on network",
   "File descriptor in bad state",
   "Remote address changed",
   "Can not access a needed shared library",
   "Accessing a corrupted shared library",
   ".lib section in a.out corrupted",
   "Attempting to link in too many shared libraries",
   "Cannot exec a shared library directly",
   "Invalid or incomplete multibyte or wide character",
   "Interrupted system call should be restarted",
   "Streams pipe error",
   "Too many users",
   "Socket operation on non-socket",
   "Destination address required",
   "Message too long",
   "Protocol wrong type for socket",
   "Protocol not available",
   "Protocol not supported",
   "Socket type not supported",
   "Operation not supported",
   "Protocol family not supported",
   "Address family not supported by protocol",
   "Address already in use",
   "Cannot assign requested address",
   "Network is down",
   "Network is unreachable",
   "Network dropped connection on reset",
   "Software caused connection abort",
   "Connection reset by peer",
   "No buffer space available",
   "Transport endpoint is already connected",
   "Transport endpoint is not connected",
   "Cannot send after transport endpoint shutdown",
   "Too many references: cannot splice",
   "Connection timed out",
   "Connection refused",
   "Host is down",
   "No route to host",
   "Operation already in progress",
   "Operation now in progress",
   "Stale file handle",
   "Structure needs cleaning",
   "Not a XENIX named type file",
   "No XENIX semaphores available",
   "Is a named type file",
   "Remote I/O error",
   "Disk quota exceeded",
   "No medium found",
   "Wrong medium type",
   "Operation canceled",
   "Required key not available",
   "Key has expired",
   "Key has been revoked",
   "Key was rejected by service",
   "Owner died",
   "State not recoverable",
   "Operation not possible due to RF-kill",
   "Memory page has hardware error"]

/-- The text of an error number. -/
def codeText (number : Int) : String :=
  if 0 ≤ number then (texts[number.toNat]?).getD ("Unknown error " ++ toString number)
  else "Unknown error " ++ toString number

/-- The kind of an error. -/
def errorKind : SystemError → ErrorKind
  | kind found => found
  | code number => .ofCode number
  | described found _ => found

/-- The text of an error. -/
def message : SystemError → String
  | kind found => found.description
  | code number => codeText number ++ " (os error " ++ toString number ++ ")"
  | described _ text => text

/-- The call was interrupted before it did anything, so it is made again. -/
def isInterrupted (error : SystemError) : Bool := error.errorKind = .interrupted

/-- The call waited as long as it may. -/
def isTimeout (error : SystemError) : Bool :=
  error.errorKind = .wouldBlock || error.errorKind = .timedOut

end SystemError

end ThresholdDaemon
