/-
# The monitor

While a download runs, a monitor reads its task again and again and publishes what it
finds in a pair of flags.  The download looks at the flags between its steps.

Main definitions:

* `Verdict`, `evaluate` : what a record says about the download that a schedule started;
* `Flags` : the published pair, `Flags.polled` : the pair after a poll;
* `Watch` : a running monitor, with the time that has passed.
-/
import Reachability.Error
import Reachability.Time.Duration

namespace Reachability

/-! ## Verdicts -/

/-- What a record says about a running download. -/
inductive Verdict
  /-- The task runs under the same identity. -/
  | running
  /-- The task is gone or was scheduled anew. -/
  | invalidated
  /-- The task was stopped. -/
  | stopped
deriving DecidableEq, Repr

/-- The name of a verdict. -/
def Verdict.name : Verdict → String
  | running => "Running"
  | invalidated => "Invalidated"
  | stopped => "Stopped"

/-- What a freshly read record says about the download that started with an identity. -/
def evaluate (record : Option TaskRecord) (identity : Identity) : Verdict :=
  match record with
  | none => .invalidated
  | some record =>
      if record.identity ≠ identity then .invalidated
      else if record.running then .running
      else .stopped

/-- A download goes on for a task that is there, under its identity, and runs. -/
theorem evaluate_eq_running_iff {record : Option TaskRecord} {identity : Identity} :
    evaluate record identity = .running ↔
      ∃ r, record = some r ∧ r.identity = identity ∧ r.running = true := by
  cases record with
  | none => simp [evaluate]
  | some r =>
    by_cases hi : r.identity = identity
    · cases hr : r.running <;> simp [evaluate, hi, hr]
    · simp [evaluate, hi]

/-! ## Flags -/

/-- The published pair. -/
structure Flags where
  /-- The download may go on. -/
  valid : Bool
  /-- The task was stopped. -/
  stopped : Bool
deriving DecidableEq, Repr

namespace Flags

/-- The pair before the first poll. -/
def initial : Flags := ⟨true, false⟩

/-- The pair that a verdict publishes. -/
def ofVerdict : Verdict → Flags
  | .running => ⟨true, false⟩
  | .invalidated => ⟨false, false⟩
  | .stopped => ⟨false, true⟩

/-- The pair that a poll publishes.  A read that fails lets the download go on. -/
def polled (read : Except Error (Option TaskRecord)) (identity : Identity) : Flags :=
  match read with
  | .ok record => ofVerdict (evaluate record identity)
  | .error _ => initial

/-- A poll ends a download only if it read the task and the verdict is against it. -/
theorem valid_polled_eq_false_iff {read : Except Error (Option TaskRecord)}
    {identity : Identity} :
    (polled read identity).valid = false ↔
      ∃ record, read = .ok record ∧ evaluate record identity ≠ .running := by
  cases read with
  | error e => simp [polled, initial]
  | ok record => cases h : evaluate record identity <;> simp [polled, ofVerdict, h]

/-- No poll publishes both flags. -/
theorem stopped_polled_eq_false {read : Except Error (Option TaskRecord)}
    {identity : Identity} (h : (polled read identity).valid = true) :
    (polled read identity).stopped = false := by
  cases read with
  | error e => rfl
  | ok record =>
    cases hv : evaluate record identity <;> simp [polled, ofVerdict, hv] at h ⊢

end Flags

/-! ## Monitors -/

/-- A monitor of one schedule of a task. -/
structure Monitor where
  taskId : TaskId
  identity : Identity
  interval : Duration
deriving DecidableEq, Repr

namespace Monitor

/-- The shortest interval between two polls. -/
def minInterval : Duration := .ofMillis 1

/-- The interval between two polls. -/
def period (m : Monitor) : Duration :=
  if m.interval.total < minInterval.total then minInterval else m.interval

/-- The monitor in words. -/
def description (m : Monitor) : String :=
  "CancellationMonitor \x7b task_id: " ++ toString m.taskId.toInt ++
    ", identity: " ++ toString m.identity.toInt ++
    ", interval: " ++ m.interval.inWords ++ " \x7d"

end Monitor

/-- A running monitor. -/
structure Watch where
  monitor : Monitor
  /-- The nanoseconds since the start. -/
  passed : Nat := 0
  flags : Flags := .initial
  /-- The number of polls so far. -/
  polls : Nat := 0
deriving DecidableEq, Repr

namespace Watch

/-- Starts a monitor. -/
def start (monitor : Monitor) : Watch := { monitor }

/-- The number of polls up to a moment: one at the end of each period. -/
def pollsBy (w : Watch) (moment : Nat) : Nat := moment / w.monitor.period.total

/-- Lets time pass during which every read of the task has the same outcome. -/
def pass (w : Watch) (time : Duration) (read : Except Error (Option TaskRecord)) : Watch :=
  let moment := w.passed + time.total
  let due := w.pollsBy moment - w.pollsBy w.passed
  { w with
    passed := moment
    flags := if due = 0 then w.flags else .polled read w.monitor.identity
    polls := w.polls + due }

end Watch
end Reachability
