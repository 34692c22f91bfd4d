/-
# Processes

External programs: how they are called and what they leave.

Main definitions:

* `CommandLine` : a program with its arguments;
* `ProcessOutput` : what a finished program left, and `ProcessOutput.text` : the part of it
  that is looked at.
-/
import Reachability.Probe.Error
import Reachability.Text.Blank

namespace Reachability

/-- A program with its arguments. -/
structure CommandLine where
  program : String
  args : List String
deriving DecidableEq, Repr

/-- The program and its arguments with blanks between them. -/
def CommandLine.text (c : CommandLine) : String :=
  " ".intercalate (c.program :: c.args)

/-- What a finished program left; there is no exit code if a signal ended it. -/
structure ProcessOutput where
  stdout : String
  stderr : String
  exitCode : Option Int32
deriving DecidableEq, Repr

namespace ProcessOutput

/-- The standard output without white space around it, or the standard error if there is
nothing on the standard output. -/
def text (o : ProcessOutput) : String :=
  let out := Text.stripped o.stdout
  if out.isEmpty then Text.stripped o.stderr else out

/-- Whether the program ended well. -/
def isSuccess (o : ProcessOutput) : Bool := o.exitCode == some 0

end ProcessOutput
end Reachability
