/-
# Sessions of a shell

What a running shell has: its parameters, what it reads, where it writes to, the time that has
passed, and how it ends.

All that is written goes to one log, with the number of its channel.  Channel 1 is the standard
output, channel 2 the standard error, channel 0 leads nowhere; the others are pipes.

Main definitions:

* `Shell.Ending` : the ways in which commands come to an end;
* `Shell.Session` : a running shell;
* `Session.write`, `Session.contents` : the log;
* `Session.redirect` : the way through redirections.
-/
import Reachability.Process.Program
import Reachability.Process.Shell.Expansion

namespace Reachability.Shell

/-! ## Endings -/

/-- The ways in which commands come to an end before the last one. -/
inductive Ending
  | exited (code : Nat)
  | killed (signal : Nat)
  /-- They go on for longer than anyone waits. -/
  | endless
  /-- Loops that are left, and loops that go on with their next turn. -/
  | breaks (loops : Nat)
  | continues (loops : Nat)
deriving DecidableEq, Repr

/-! ## Sessions -/

/-- A running shell. -/
structure Session where
  scope : Scope
  input : List UInt8 := []
  /-- The channels that descriptors 1 and 2 lead to. -/
  output : Nat := 1
  errors : Nat := 2
  /-- What was written to which channel, the last first. -/
  log : List (Nat × List UInt8) := []
  /-- The highest number of a channel so far. -/
  opened : Nat := 2
  /-- The nanoseconds that have passed. -/
  time : Nat := 0
  /-- When the last of the commands ends that are not waited for. -/
  lingering : Nat := 0
  ending : Option Ending := none
deriving DecidableEq, Repr

namespace Session

/-- Whether the last command went well. -/
def isWell (s : Session) : Bool := s.scope.status == 0

/-- The session after a command that went in a certain way. -/
def withStatus (s : Session) (status : Nat) : Session :=
  { s with scope := { s.scope with status } }

/-- The session after its end. -/
def stop (s : Session) (ending : Ending) : Session := { s with ending := some ending }

/-! ## Channels -/

/-- Writes to a channel. -/
def write (s : Session) (channel : Nat) (bytes : List UInt8) : Session :=
  if channel = 0 || bytes.isEmpty then s else { s with log := (channel, bytes) :: s.log }

/-- What was written to a channel. -/
def contents (s : Session) (channel : Nat) : List UInt8 :=
  (s.log.reverse.filter (·.1 = channel)).flatMap (·.2)

/-- The session without what was written to a channel. -/
def forget (s : Session) (channel : Nat) : Session :=
  { s with log := s.log.filter (·.1 ≠ channel) }

/-- Complains about a line. -/
def complain (s : Session) (line : Nat) (message : String) (status : Nat) : Session :=
  let label := String.ofList s.scope.name ++ ": " ++ Decimal.ofNat line ++ ": "
  (s.write s.errors (Program.bytes (label ++ message ++ "\n"))).withStatus status

/-- The session after a program. -/
def finish (s : Session) (r : Program.Finished) : Session :=
  let s := (s.write s.output r.stdout).write s.errors r.stderr
  { s.withStatus r.status with time := s.time + r.time }

/-! ## Shells within shells -/

/-- The status that a shell leaves. -/
def exitStatus (s : Session) : Nat :=
  match s.ending with
  | some (.exited code) => code
  | some (.killed signal) => 128 + signal
  | _ => s.scope.status

/-- The session after a part of it that ran in a shell of its own.  A signal to the process, and
commands without an end, are the end of the whole. -/
def after (s part : Session) : Session :=
  let s := { s with
    log := part.log
    opened := part.opened
    time := max s.time part.time
    lingering := max s.lingering part.lingering }
  match part.ending with
  | some (.killed signal) => s.stop (.killed signal)
  | some .endless => s.stop .endless
  | _ => s.withStatus part.exitStatus

/-! ## Redirections -/

/-- The session with a descriptor that leads to a channel. -/
def lead (s : Session) (descriptor channel : Nat) : Session :=
  match descriptor with
  | 1 => { s with output := channel }
  | 2 => { s with errors := channel }
  | _ => s

/-- The channel that a path leads to. -/
def channelOf (s : Session) (path : List Char) : Nat :=
  match String.ofList path with
  | "/dev/stdout" => s.output
  | "/dev/stderr" => s.errors
  | _ => 0

/-- The session with one redirection, or what is wrong with it.  Written files are not looked
at again, so that nothing is kept of them. -/
def redirectOne (s : Session) (r : Redirection) : Except String Session := do
  match r with
  | .document text => return { s with input := Utf8.encode (← s.scope.text text) }
  | .input path =>
      let path := String.ofList (← s.scope.text path)
      if path = "/dev/null" then return { s with input := [] }
      else throw ("cannot open " ++ path ++ ": No such file")
  | .output descriptor path => return s.lead descriptor (s.channelOf (← s.scope.text path))
  | .duplicate descriptor source =>
      match String.ofList (← s.scope.text source) with
      | "1" => return s.lead descriptor s.output
      | "2" => return s.lead descriptor s.errors
      | "-" => return s.lead descriptor 0
      | other => throw (other ++ ": Bad file descriptor")

/-- The session with redirections, each of which sees those before it. -/
def redirect (s : Session) (rs : List Redirection) : Except String Session :=
  rs.foldlM redirectOne s

/-- The session with its descriptors as they were before. -/
def restore (s before : Session) : Session :=
  { s with output := before.output, errors := before.errors, input := before.input }

end Session
end Reachability.Shell
