/-
# Attempts

A probe makes several attempts and sums them up.  An attempt that was answered is a
success; one that ran to its end without an answer counts as a timeout; one that could not
be made counts as an error.

Main definitions:

* `Attempt` : how one attempt went;
* `Tally.record` : counts one more attempt;
* `AttemptSummary.ofAttempts` : the summary of a list of attempts;
* `AttemptSummary.successRate` : the share of successes in percent.
-/
import Reachability.Number.Binary64
import Reachability.Probe.Error
import Reachability.Time.Duration

namespace Reachability

/-- How one attempt went. -/
inductive Attempt
  | answered (time : Duration)
  | unanswered (time : Duration)
  | failed (e : ProbeError)
deriving DecidableEq, Repr

/-! ## Counting -/

/-- The counts so far, with the time of the successes. -/
structure Tally where
  attempts : Nat := 0
  successes : Nat := 0
  timeouts : Nat := 0
  errors : Nat := 0
  successTime : Duration := .zero
  lastError : Option ProbeError := none
deriving DecidableEq, Repr

/-- The number that a count of attempts does not reach. -/
def attemptLimit : Nat := UInt32.size

/-- Counts one more attempt. -/
def Tally.record (t : Tally) (a : Attempt) : Except Fault Tally :=
  if t.attempts + 1 ≥ attemptLimit then .error .additionOverflow
  else
    let t := { t with attempts := t.attempts + 1 }
    match a with
    | .answered time =>
        match t.successTime.add time with
        | .ok successTime => .ok { t with successes := t.successes + 1, successTime }
        | .error f => .error f
    | .unanswered _ => .ok { t with timeouts := t.timeouts + 1 }
    | .failed e => .ok { t with errors := t.errors + 1, lastError := some e }

/-! ## Summing up -/

/-- What the attempts of one probe came to. -/
structure AttemptSummary where
  /-- At least one attempt was a success. -/
  success : Bool
  attempts : UInt32
  successfulAttempts : UInt32
  timeouts : UInt32
  errors : UInt32
  /-- The mean time of the successes, nothing if there were none. -/
  averageDuration : Duration
  /-- The last error, if there was one. -/
  lastError : Option ProbeError
deriving DecidableEq, Repr

/-- The summary of the counts. -/
def Tally.summary (t : Tally) : AttemptSummary :=
  { success := 0 < t.successes
    attempts := UInt32.ofNat t.attempts
    successfulAttempts := UInt32.ofNat t.successes
    timeouts := UInt32.ofNat t.timeouts
    errors := UInt32.ofNat t.errors
    averageDuration := t.successTime.share t.successes
    lastError := t.lastError }

namespace AttemptSummary

/-- The summary of a list of attempts. -/
def ofAttempts (attempts : List Attempt) : Except Fault AttemptSummary :=
  (attempts.foldlM Tally.record {}).map Tally.summary

/-- The summary of a probe that could not make a single attempt. -/
def notStarted (e : ProbeError) : AttemptSummary :=
  { success := false
    attempts := 0
    successfulAttempts := 0
    timeouts := 0
    errors := 1
    averageDuration := .zero
    lastError := some e }

/-- The share of successes in percent, zero if there were no attempts. -/
def successRate (s : AttemptSummary) : Binary64 :=
  if s.attempts = 0 then .zero false
  else
    Binary64.ofNat s.successfulAttempts.toNat / Binary64.ofNat s.attempts.toNat * Binary64.ofNat 100

end AttemptSummary
end Reachability
