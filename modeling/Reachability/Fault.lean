/-
# Faults

A fault is an arithmetic limit that a computation cannot go beyond.  It is no outcome of a
probe but ends the whole run, so it stands apart from the errors that probes report.
-/

namespace Reachability

/-- The limits that a computation can run into. -/
inductive Fault
  /-- The seconds of a sum of durations leave the 64-bit range. -/
  | durationOverflow
  /-- An integer sum leaves its range. -/
  | additionOverflow
  /-- An instant shifted by a duration leaves the calendar. -/
  | instantOverflow
deriving DecidableEq, Repr

/-- The text that names the fault. -/
def Fault.message : Fault → String
  | .durationOverflow => "overflow when adding durations"
  | .additionOverflow => "attempt to add with overflow"
  | .instantOverflow => "`DateTime + TimeDelta` overflowed"

end Reachability
