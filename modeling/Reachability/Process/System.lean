/-
# Running processes

A program is looked for, run with its arguments and without an input, and waited for within a
limit of time.

Main definitions:

* `CommandLine.spawnFault?` : why a program cannot be started;
* `CommandLine.execute` : what it leaves.
-/
import Reachability.File.Tree
import Reachability.Process.Basic
import Reachability.Process.Shell.Run

namespace Reachability.CommandLine

/-! ## Starting -/

/-- Why a program cannot be started.  Directories are no programs. -/
def spawnFault? (c : CommandLine) : Option String :=
  let path := c.program
  if (path :: c.args).any (·.toList.contains '\x00') then
    some "nul byte found in provided data"
  else if ["/", ".", "..", "./", "../", "/bin", "/dev", "/etc", "/tmp", "/usr"].contains path then
    some "Permission denied (os error 13)"
  else if (Text.fields '/' path.toList).any fun part =>
      File.Tree.maxName < (String.ofList part).utf8ByteSize then
    some File.Fault.nameTooLong.message
  else
    let name := Shell.programName path
    if Shell.isShell name || (Program.find? name).isSome then none
    else some File.Fault.notFound.message

/-! ## Waiting -/

/-- What a process comes to: what it leaves, or `none` if it does not end, and the time that it
takes. -/
def outcome (c : CommandLine) : Option (List UInt8 × List UInt8 × Option Nat) × Nat :=
  let name := Shell.programName c.program
  match Program.find? name with
  | some program =>
      let r := program c.args []
      (some (r.stdout, r.stderr, some r.status), r.time)
  | none =>
      let s := Shell.start c.program.toList (c.args.map String.toList)
      let output := (s.contents 1, s.contents 2)
      let time := max s.time s.lingering
      match s.ending with
      | some .endless => (none, time)
      | some (.killed _) => (some (output.1, output.2, none), time)
      | _ => (some (output.1, output.2, some s.exitStatus), time)

/-- The text of some bytes. -/
def textOf (bytes : List UInt8) : String := String.ofList (Utf8.decodeLossy bytes)

/-- Runs a command line and waits for it within a limit. -/
def execute (c : CommandLine) (limit : Duration) : Except ProbeError ProcessOutput :=
  match spawnFault? c with
  | some fault => .error (.spawn (c.program ++ ": " ++ fault))
  | none =>
      match outcome c with
      | (some (out, err, code), time) =>
          if time < limit.total then
            .ok { stdout := textOf out, stderr := textOf err
                  exitCode := code.map fun n => Int32.ofNat (n % 256) }
          else .error .timeout
      | (none, _) => .error .timeout

end Reachability.CommandLine
