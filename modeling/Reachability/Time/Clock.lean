/-
# Instants and clocks

Points in time on the proleptic Gregorian calendar in UTC, the time between two of them,
and clocks that hand out prepared instants.

A clock second may hold a leap second: its nanoseconds then run from one to two billion.

Main definitions:

* `Instant.ofUnix?` : an instant from seconds and nanoseconds since 1970;
* `Instant.addMillis` : a shifted instant;
* `Instant.elapsed` : the time between two instants, zero if they are in reverse order;
* `Clock` : prepared readings, the last of which repeats.
-/
import Reachability.Time.Duration

namespace Reachability

/-- A point in time: seconds since 1970 and nanoseconds beyond. -/
structure Instant where
  secs : Int
  nanos : Nat
deriving DecidableEq, Repr

instance : Inhabited Instant := ⟨⟨0, 0⟩⟩

namespace Instant

/-! ## Range -/

/-- The first second of the calendar, at the start of the year -262143. -/
def firstSecond : Int := -8334601228800

/-- The last second of the calendar, at the end of the year 262142. -/
def lastSecond : Int := 8210266876799

/-- The instant at that time, if the calendar has it.  A second that ends a minute may be
followed by a leap second. -/
def ofUnix? (secs : Int) (nanos : Nat) : Option Instant :=
  if firstSecond ≤ secs ∧ secs ≤ lastSecond ∧
      (nanos < nanosPerSecond ∨ (secs % 60 = 59 ∧ nanos < 2 * nanosPerSecond)) then
    some ⟨secs, nanos⟩
  else none

/-! ## Differences -/

/-- The second within the day. -/
def secondOfDay (t : Instant) : Int := t.secs % 86400

/-- Whether the instant lies in a leap second. -/
def isLeap (t : Instant) : Bool := nanosPerSecond ≤ t.nanos

/-- The nanoseconds from `start` to `finish`.  A leap second counts if the later time of
day is behind it. -/
def nanosBetween (start finish : Instant) : Int :=
  let leap : Int :=
    if start.secondOfDay < finish.secondOfDay then if start.isLeap then 1 else 0
    else if finish.secondOfDay < start.secondOfDay then if finish.isLeap then -1 else 0
    else 0
  (finish.secs - start.secs + leap) * nanosPerSecond + (finish.nanos - start.nanos)

/-- The time from `start` to `finish`, or none if the clock went backwards. -/
def elapsed (start finish : Instant) : Duration :=
  Duration.ofNanos (nanosBetween start finish).toNat

/-! ## Shifts -/

/-- The instant that many milliseconds later, or earlier for a negative number.  A shift
that leaves a leap second goes on from the second before it. -/
def addMillis (t : Instant) (ms : Int) : Except Fault Instant :=
  let wholeSecs := Int.tdiv ms 1000
  let restNanos := Int.tmod ms 1000 * 1000000
  let finish (secs nanos : Int) : Except Fault Instant :=
    let secs := secs + nanos.fdiv nanosPerSecond
    let nanos := nanos.fmod nanosPerSecond
    if firstSecond ≤ secs ∧ secs ≤ lastSecond then .ok ⟨secs, nanos.toNat⟩
    else .error .instantOverflow
  if t.isLeap then
    if wholeSecs > 0 ∨ (restNanos > 0 ∧ (t.nanos : Int) + restNanos ≥ 2 * nanosPerSecond) then
      finish (t.secs + wholeSecs) (t.nanos - nanosPerSecond + restNanos)
    else if wholeSecs < 0 then
      finish (t.secs + 1 + wholeSecs) (t.nanos - nanosPerSecond + restNanos)
    else .ok ⟨t.secs, ((t.nanos : Int) + restNanos).toNat⟩
  else finish (t.secs + wholeSecs) (t.nanos + restNanos)

end Instant

/-! ## Clocks -/

/-- A clock with prepared readings; `last` is what it shows once they are used up. -/
structure Clock where
  queue : List Instant
  last : Instant
deriving Repr

namespace Clock

/-- A clock that shows the instants in order and then stays at the last. -/
def ofInstants (instants : List Instant) : Clock :=
  ⟨instants, instants.headD default⟩

/-- A clock that shows `base` shifted by each of the offsets. -/
def ofOffsets (base : Instant) (offsets : List Int) : Except Fault Clock :=
  return ofInstants (← offsets.mapM base.addMillis)

/-- Prepares a further reading. -/
def push (c : Clock) (t : Instant) : Clock :=
  { c with queue := c.queue ++ [t] }

/-- Reads the clock. -/
def now (c : Clock) : Instant × Clock :=
  match c.queue with
  | [] => (c.last, c)
  | t :: rest => (t, ⟨rest, t⟩)

end Clock
end Reachability
