/-! # Faults

An error is kept as its cause; the wording is one function per type. A fault of
the server either is its own or carries one of the application, which it shows
unchanged.
-/

namespace Admission

/-- The kinds of failure an input or output call can report. -/
inductive IoKind where
  | addrInUse
  | addrNotAvailable
  | alreadyExists
  | brokenPipe
  | connectionAborted
  | connectionRefused
  | connectionReset
  | deadlock
  | directoryNotEmpty
  | executableFileBusy
  | fileTooLarge
  | hostUnreachable
  | interrupted
  | invalidData
  | invalidInput
  | isADirectory
  | networkDown
  | networkUnreachable
  | notADirectory
  | notConnected
  | notFound
  | notSeekable
  | other
  | outOfMemory
  | permissionDenied
  | readOnlyFilesystem
  | resourceBusy
  | staleNetworkFileHandle
  | storageFull
  | timedOut
  | tooManyLinks
  | unexpectedEof
  | unsupported
  | wouldBlock
  | writeZero
  deriving DecidableEq, Repr

namespace IoKind

def all : List IoKind :=
  [addrInUse, addrNotAvailable, alreadyExists, brokenPipe, connectionAborted, connectionRefused,
    connectionReset, deadlock, directoryNotEmpty, executableFileBusy, fileTooLarge,
    hostUnreachable, interrupted, invalidData, invalidInput, isADirectory, networkDown,
    networkUnreachable, notADirectory, notConnected, notFound, notSeekable, other, outOfMemory,
    permissionDenied, readOnlyFilesystem, resourceBusy, staleNetworkFileHandle, storageFull,
    timedOut, tooManyLinks, unexpectedEof, unsupported, wouldBlock, writeZero]

/-- The fixed description of a kind, shown when a failure brings no text of its own. -/
def description : IoKind → String
  | addrInUse => "address in use"
  | addrNotAvailable => "address not available"
  | alreadyExists => "entity already exists"
  | brokenPipe => "broken pipe"
  | connectionAborted => "connection aborted"
  | connectionRefused => "connection refused"
  | connectionReset => "connection reset"
  | deadlock => "deadlock"
  | directoryNotEmpty => "directory not empty"
  | executableFileBusy => "executable file busy"
  | fileTooLarge => "file too large"
  | hostUnreachable => "host unreachable"
  | interrupted => "operation interrupted"
  | invalidData => "invalid data"
  | invalidInput => "invalid input parameter"
  | isADirectory => "is a directory"
  | networkDown => "network down"
  | networkUnreachable => "network unreachable"
  | notADirectory => "not a directory"
  | notConnected => "not connected"
  | notFound => "entity not found"
  | notSeekable => "seek on unseekable file"
  | other => "other error"
  | outOfMemory => "out of memory"
  | permissionDenied => "permission denied"
  | readOnlyFilesystem => "read-only filesystem or storage medium"
  | resourceBusy => "resource busy"
  | staleNetworkFileHandle => "stale network file handle"
  | storageFull => "no storage space"
  | timedOut => "timed out"
  | tooManyLinks => "too many links"
  | unexpectedEof => "unexpected end of file"
  | unsupported => "unsupported"
  | wouldBlock => "operation would block"
  | writeZero => "write zero"

end IoKind

/-- A failed call: its kind, and its own text when it brings one. -/
structure IoFault where
  kind : IoKind
  text : Option String := none
  deriving DecidableEq, Repr

namespace IoFault

def message (fault : IoFault) : String :=
  fault.text.getD fault.kind.description

/-- The operating system's refusal to bind an address somebody else holds. -/
def addressTaken : IoFault :=
  { kind := .addrInUse, text := some "Address already in use (os error 98)" }

/-- A host name nobody could resolve. -/
def unknownHost : IoFault :=
  { kind := .other,
    text := some "failed to lookup address information: Name or service not known" }

end IoFault

/-- Faults of the application core. -/
inductive AppFault where
  /-- A setting makes no sense. -/
  | config (text : String)
  | io (fault : IoFault)
  /-- An operation was used where it cannot work. -/
  | internal (text : String)
  deriving DecidableEq, Repr

namespace AppFault

def message : AppFault → String
  | config text => "Configuration error: " ++ text
  | io fault => "IO error: " ++ fault.message
  | internal text => "Internal error: " ++ text

/-- The failed call behind a fault, where there is one. -/
def source : AppFault → Option IoFault
  | io fault => some fault
  | _ => none

end AppFault

/-- Faults of the server. -/
inductive ServerFault where
  /-- The listener could not be bound to `address`. -/
  | bind (address : String) (fault : IoFault)
  /-- Accepting a connection failed; the accept loop is over. -/
  | accept (fault : IoFault)
  | config (text : String)
  /-- A fault of the application, shown as it is. -/
  | app (fault : AppFault)
  | io (fault : IoFault)
  deriving DecidableEq, Repr

namespace ServerFault

def message : ServerFault → String
  | bind address fault => "Failed to bind listener on " ++ address ++ ": " ++ fault.message
  | accept fault => "Accept failed: " ++ fault.message
  | config text => "Configuration error: " ++ text
  | app fault => fault.message
  | io fault => "IO error: " ++ fault.message

def source : ServerFault → Option IoFault
  | bind _ fault => some fault
  | accept fault => some fault
  | config _ => none
  | app fault => fault.source
  | io fault => some fault

end ServerFault

end Admission
