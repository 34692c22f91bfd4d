/-
# Outcomes

What the execution of a task came to, whatever its kind of probe.

Main definitions:

* `Outcome` : the result of one probe;
* `Outcome.kind`, `Outcome.isSuccess`, `Outcome.error?` : what all results have;
* `Outcome.toDocument`, `Outcome.ofDocument?`.
-/
import Reachability.Download.Document
import Reachability.Ping.Document
import Reachability.Task.Basic

namespace Reachability

/-- The result of one probe. -/
inductive Outcome
  | ping (r : Ping.Result)
  | connect (s : AttemptSummary)
  | download (r : Download.Result)
deriving DecidableEq, Repr

namespace Outcome

/-- The kind of probe. -/
def kind : Outcome → AccessType
  | ping _ => .ping
  | connect _ => .connect
  | download _ => .download

/-- Whether the address could be reached. -/
def isSuccess : Outcome → Bool
  | ping r => r.aggregate.success
  | connect s => s.success
  | download r => r.isSuccess

/-- The error that a result shows. -/
def error? : Outcome → Option ProbeError
  | ping r => r.aggregate.lastError
  | connect s => s.lastError
  | download r => r.error

/-! ## Documents -/

/-- The result without its kind. -/
def resultDocument : Outcome → Document
  | ping r => r.toDocument
  | connect s => s.toDocument
  | download r => r.toDocument

/-- The tag of an outcome in documents. -/
def tag : Outcome → String
  | ping _ => "ping"
  | connect _ => "connect"
  | download _ => "download"

/-- An outcome as a document. -/
def toDocument (o : Outcome) : Document :=
  .table [("kind", .text o.tag), ("result", o.resultDocument)]

/-- The names of the fields. -/
def fieldNames : List String := ["kind", "result"]

/-- The outcome of a tag whose result a document is. -/
def ofResult? (tag : String) (d : Document) : Option Outcome :=
  match tag with
  | "ping" => (Ping.Result.ofDocument? d).map ping
  | "connect" => (AttemptSummary.ofDocument? d).map connect
  | "download" => (Download.Result.ofDocument? d).map download
  | _ => none

/-- The outcome that a document is. -/
def ofDocument? (d : Document) : Option Outcome :=
  match d.fields? .json fieldNames with
  | some [some kind, some result] => do
      ofResult? (← kind.asName? .json) result
  | _ => none

end Outcome
end Reachability
