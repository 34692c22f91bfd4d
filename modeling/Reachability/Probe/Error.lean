/-
# Probe errors

What a probe can run into.  Such an error is part of the probe's result; it does not end
the program.

Main definitions:

* `ProbeError` : the errors, with `ProbeError.message`;
* `SystemFailure` : what the operating system reports, and `ProbeError.ofFailure` : what a
  probe makes of it;
* `ProbeError.toDocument`, `ProbeError.ofDocument?`.
-/
import Reachability.Document.Basic

namespace Reachability

/-! ## Errors -/

/-- What a probe can run into. -/
inductive ProbeError
  | timeout
  | connectionRefused
  | hostUnreachable
  | networkUnreachable
  | permissionDenied
  | invalidTarget (text : String)
  | dnsResolution (text : String)
  /-- A program that cannot be started. -/
  | spawn (text : String)
  | http (text : String)
  | invalidUrl (text : String)
  /-- No file name can be made for a download. -/
  | fileName
  | fileSystem (text : String)
  /-- The caller gave up. -/
  | interrupted
  | ioError (text : String)
  | internal (text : String)
deriving DecidableEq, Repr

namespace ProbeError

/-- The text of an error. -/
def message : ProbeError → String
  | timeout => "Connection timeout"
  | connectionRefused => "Connection refused"
  | hostUnreachable => "Host unreachable"
  | networkUnreachable => "Network unreachable"
  | permissionDenied => "Permission denied"
  | invalidTarget text => "Invalid target: " ++ text
  | dnsResolution text => "DNS resolution failed: " ++ text
  | spawn text => "Failed to spawn process: " ++ text
  | http text => "HTTP error: " ++ text
  | invalidUrl text => "Invalid URL: " ++ text
  | fileName => "Unable to determine a file name for the download"
  | fileSystem text => "File system error: " ++ text
  | interrupted => "Interrupted"
  | ioError text => "IO error: " ++ text
  | internal text => "Internal error: " ++ text

/-- Whether the error is a timeout. -/
def isTimeout (e : ProbeError) : Bool := e == .timeout

end ProbeError

/-! ## Failures of the system -/

/-- The kinds of failure that the operating system reports. -/
inductive FailureKind
  | connectionRefused
  | timedOut
  | hostUnreachable
  | networkUnreachable
  | permissionDenied
  | connectionReset
  | connectionAborted
  | notConnected
  | networkDown
  | addrInUse
  | addrNotAvailable
  | brokenPipe
  | notFound
  | alreadyExists
  | wouldBlock
  | invalidInput
  | invalidData
  | writeZero
  | interrupted
  | unsupported
  | unexpectedEof
  | outOfMemory
  | other
deriving DecidableEq, Repr

/-- All kinds of failure. -/
def FailureKind.all : List FailureKind :=
  [connectionRefused, timedOut, hostUnreachable, networkUnreachable, permissionDenied,
   connectionReset, connectionAborted, notConnected, networkDown, addrInUse, addrNotAvailable,
   brokenPipe, notFound, alreadyExists, wouldBlock, invalidInput, invalidData, writeZero,
   interrupted, unsupported, unexpectedEof, outOfMemory, other]

/-- The general text for a kind of failure. -/
def FailureKind.text : FailureKind → String
  | connectionRefused => "connection refused"
  | timedOut => "timed out"
  | hostUnreachable => "host unreachable"
  | networkUnreachable => "network unreachable"
  | permissionDenied => "permission denied"
  | connectionReset => "connection reset"
  | connectionAborted => "connection aborted"
  | notConnected => "not connected"
  | networkDown => "network down"
  | addrInUse => "address in use"
  | addrNotAvailable => "address not available"
  | brokenPipe => "broken pipe"
  | notFound => "entity not found"
  | alreadyExists => "entity already exists"
  | wouldBlock => "operation would block"
  | invalidInput => "invalid input parameter"
  | invalidData => "invalid data"
  | writeZero => "write zero"
  | interrupted => "operation interrupted"
  | unsupported => "unsupported"
  | unexpectedEof => "unexpected end of file"
  | outOfMemory => "out of memory"
  | other => "other error"

/-- A failure, perhaps with a text of its own. -/
structure SystemFailure where
  kind : FailureKind
  message : Option String
deriving DecidableEq, Repr

/-- The text of a failure. -/
def SystemFailure.text (f : SystemFailure) : String := f.message.getD f.kind.text

/-- What a probe makes of a failure: the kinds that tell something about the target have
errors of their own. -/
def ProbeError.ofFailure (f : SystemFailure) : ProbeError :=
  match f.kind with
  | .connectionRefused => .connectionRefused
  | .timedOut => .timeout
  | .hostUnreachable => .hostUnreachable
  | .networkUnreachable => .networkUnreachable
  | .permissionDenied => .permissionDenied
  | _ => .ioError f.text

/-! ## Documents -/

namespace ProbeError

open Document

/-- The errors without a text, by name. -/
def plain : List (String × ProbeError) :=
  [("Timeout", timeout), ("ConnectionRefused", connectionRefused),
    ("HostUnreachable", hostUnreachable), ("NetworkUnreachable", networkUnreachable),
    ("PermissionDenied", permissionDenied), ("FileName", fileName), ("Interrupted", interrupted)]

/-- The errors with a text, by name. -/
def withText : List (String × (String → ProbeError)) :=
  [("InvalidTarget", invalidTarget), ("DnsResolution", dnsResolution), ("Spawn", spawn),
    ("Http", http), ("InvalidUrl", invalidUrl), ("FileSystem", fileSystem), ("IoError", ioError),
    ("Internal", internal)]

/-- An error as a document: its name, or a table from its name to its text. -/
def toDocument : ProbeError → Document
  | timeout => .text "Timeout"
  | connectionRefused => .text "ConnectionRefused"
  | hostUnreachable => .text "HostUnreachable"
  | networkUnreachable => .text "NetworkUnreachable"
  | permissionDenied => .text "PermissionDenied"
  | invalidTarget t => .table [("InvalidTarget", .text t)]
  | dnsResolution t => .table [("DnsResolution", .text t)]
  | spawn t => .table [("Spawn", .text t)]
  | http t => .table [("Http", .text t)]
  | invalidUrl t => .table [("InvalidUrl", .text t)]
  | fileName => .text "FileName"
  | fileSystem t => .table [("FileSystem", .text t)]
  | interrupted => .text "Interrupted"
  | ioError t => .table [("IoError", .text t)]
  | internal t => .table [("Internal", .text t)]

/-- The error that a document is. -/
def ofDocument? (d : Document) : Option ProbeError :=
  match d with
  | .text name => plain.lookup name
  | .table [(name, .null)] => plain.lookup name
  | .table [(name, .text t)] => (withText.lookup name).map (· t)
  | _ => none

end ProbeError
end Reachability
