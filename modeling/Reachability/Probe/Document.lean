/-
# Summaries as documents

Main definitions:

* `AttemptSummary.toDocument`, `AttemptSummary.ofDocument?`.
-/
import Reachability.Config.Document
import Reachability.Probe.Attempts

namespace Reachability.AttemptSummary

open Document

/-- A summary as a document. -/
def toDocument (s : AttemptSummary) : Document :=
  .table
    [("success", .bool s.success),
     ("attempts", .integer s.attempts.toNat),
     ("successful_attempts", .integer s.successfulAttempts.toNat),
     ("timeouts", .integer s.timeouts.toNat),
     ("errors", .integer s.errors.toNat),
     ("average_duration", s.averageDuration.toDocument),
     ("last_error", (s.lastError.map ProbeError.toDocument).getD .null)]

/-- The names of the fields. -/
def fieldNames : List String :=
  ["success", "attempts", "successful_attempts", "timeouts", "errors", "average_duration",
    "last_error"]

/-- The summary that a document is. -/
def ofDocument? (d : Document) : Option AttemptSummary :=
  match d.fields? .json fieldNames with
  | some [success, attempts, successfulAttempts, timeouts, errors, average, lastError] => do
      return {
        success := ← required asBool? success
        attempts := ← required asUInt32? attempts
        successfulAttempts := ← required asUInt32? successfulAttempts
        timeouts := ← required asUInt32? timeouts
        errors := ← required asUInt32? errors
        averageDuration := ← required (Duration.ofDocument? .json) average
        lastError := ← optional ProbeError.ofDocument? d.isPositional lastError }
  | _ => none

end Reachability.AttemptSummary
