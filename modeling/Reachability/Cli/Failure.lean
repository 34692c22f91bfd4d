/-
# Failures

What keeps a command from being carried out, each with the causes behind it.

Main definitions:

* `Cli.Failure` : the failures;
* `Cli.Failure.chain` : the texts of a failure and its causes;
* `Cli.Failure.lines` : the report of a failure.
-/
import Reachability.Error
import Reachability.Number.Decimal
import Reachability.Text.Split

namespace Reachability.Cli

/-- What keeps a command from being carried out. -/
inductive Failure
  /-- The configuration at a path cannot be used. -/
  | configuration (path : String) (e : ConfigError)
  /-- There is no identity for a task that only lives as long as its probe. -/
  | identity (e : Error)
  | openDatabase (path : String) (e : Error)
  | loadTask (e : Error)
  | taskNotFound (id : TaskId) (path : String)
  | otherKind (id : TaskId) (kind : AccessType)
deriving DecidableEq, Repr

namespace Failure

/-- The texts of a failure and of the causes behind it, outermost first. -/
def chain : Failure → List String
  | configuration path e =>
      ("Failed to load configuration from " ++ path) :: (Error.config e).chain
  | identity e => "Failed to allocate a task identity" :: e.chain
  | openDatabase path e => ("Failed to open task database " ++ path) :: e.chain
  | loadTask e => e.chain
  | taskNotFound id path => ["Task " ++ Decimal.ofInt id.toInt ++ " not found in " ++ path]
  | otherKind id kind =>
      ["Task " ++ Decimal.ofInt id.toInt ++ " is a " ++ kind.name ++ " task, not a download"]

/-- The lines of a text, each behind a margin; the first one has a margin of its own. -/
def indented (first margin text : String) : List String :=
  match (Text.fields '\n' text.toList).map String.ofList with
  | [] => []
  | line :: lines => (first ++ line) :: lines.map (margin ++ ·)

/-- A number in five places. -/
def numbered (n : Nat) : String :=
  let digits := Decimal.digits n
  String.ofList (List.replicate (5 - digits.length) ' ' ++ digits) ++ ": "

/-- The lines of the causes; several causes are numbered. -/
def causeLines : List String → List String
  | [] => []
  | [cause] => indented "    " "    " cause
  | causes => causes.zipIdx.flatMap fun (cause, n) => indented (numbered n) "       " cause

/-- The report of a failure. -/
def lines (f : Failure) : List String :=
  match f.chain with
  | [] => []
  | [message] => indented "Error: " "" message
  | message :: causes =>
      indented "Error: " "" message ++ ["", "Caused by:"] ++ causeLines causes

end Failure
end Reachability.Cli
