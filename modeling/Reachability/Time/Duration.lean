/-
# Durations

Lengths of time in whole nanoseconds, below 2^64 seconds.

Main definitions:

* `Duration.ofParts?` : a duration from seconds and nanoseconds;
* `Duration.add` : the sum, unless it is too long;
* `Duration.share` : an equal part, rounded down to a nanosecond.
-/
import Reachability.Fault

namespace Reachability

/-- The nanoseconds of a second. -/
def nanosPerSecond : Nat := 1000000000

/-- The length in nanoseconds that no duration reaches. -/
def Duration.limit : Nat := UInt64.size * nanosPerSecond

/-- A length of time in nanoseconds. -/
structure Duration where
  total : Nat
  total_lt : total < Duration.limit
deriving DecidableEq, Repr

namespace Duration

theorem limit_pos : 0 < limit := by decide

@[ext]
theorem ext {a b : Duration} (h : a.total = b.total) : a = b := by
  cases a; cases b; cases h; rfl

/-! ## Construction -/

/-- The duration of that many nanoseconds, or the longest one. -/
def ofNanos (n : Nat) : Duration :=
  ⟨min n (limit - 1), by have := limit_pos; omega⟩

/-- The duration of that many nanoseconds, if there is one. -/
def ofNanos? (n : Nat) : Option Duration :=
  if h : n < limit then some ⟨n, h⟩ else none

/-- The empty duration. -/
def zero : Duration := ⟨0, limit_pos⟩

instance : Inhabited Duration := ⟨zero⟩

/-- The duration of seconds and nanoseconds; nanoseconds beyond a second carry over. -/
def ofParts? (secs nanos : Nat) : Option Duration :=
  ofNanos? (secs * nanosPerSecond + nanos)

/-- The duration of a number of seconds. -/
def ofSecs (secs : UInt64) : Duration :=
  ⟨secs.toNat * nanosPerSecond, by
    have : secs.toNat < UInt64.size := secs.toNat_lt_size
    unfold limit nanosPerSecond
    omega⟩

/-- The duration of a number of milliseconds, or the longest one. -/
def ofMillis (ms : Nat) : Duration := ofNanos (ms * 1000000)

/-! ## Parts -/

/-- The whole seconds. -/
def secs (d : Duration) : Nat := d.total / nanosPerSecond

/-- The nanoseconds beyond the whole seconds. -/
def nanos (d : Duration) : Nat := d.total % nanosPerSecond

/-- The whole milliseconds. -/
def millis (d : Duration) : Nat := d.total / 1000000

/-- Whether the duration is empty. -/
def isZero (d : Duration) : Bool := d.total == 0

/-- Seconds and nanoseconds give the duration back. -/
theorem ofParts?_parts (d : Duration) : ofParts? d.secs d.nanos = some d := by
  have h : d.secs * nanosPerSecond + d.nanos = d.total := by
    unfold secs nanos
    rw [Nat.mul_comm]
    exact Nat.div_add_mod d.total nanosPerSecond
  simp only [ofParts?, ofNanos?, h, d.total_lt, dite_true]

/-! ## Arithmetic -/

/-- The sum of two durations. -/
def add (a b : Duration) : Except Fault Duration :=
  match ofNanos? (a.total + b.total) with
  | some d => .ok d
  | none => .error .durationOverflow

/-- One of `n` equal parts, rounded down to a nanosecond; of no parts, nothing. -/
def share (d : Duration) (n : Nat) : Duration :=
  if n = 0 then zero
  else ⟨d.total / n, Nat.lt_of_le_of_lt (Nat.div_le_self _ _) d.total_lt⟩

/-- The least number of whole seconds that is not shorter. -/
def ceilSecs (d : Duration) : Nat :=
  (d.total + (nanosPerSecond - 1)) / nanosPerSecond

/-! ## In words -/

/-- A number of units with a fraction of so many places, without zeros at its end. -/
def unitsText (whole fraction places : Nat) (unit : String) : String :=
  let ds := Nat.toDigits 10 fraction
  let padded := List.replicate (places - ds.length) '0' ++ ds
  let kept := (padded.reverse.dropWhile (· == '0')).reverse
  let tail := if fraction = 0 then "" else "." ++ String.ofList kept
  toString whole ++ tail ++ unit

/-- The duration in the largest unit of which it holds one. -/
def inWords (d : Duration) : String :=
  let n := d.total
  if n ≥ nanosPerSecond then unitsText d.secs d.nanos 9 "s"
  else if n ≥ 1000000 then unitsText (n / 1000000) (n % 1000000) 6 "ms"
  else if n ≥ 1000 then unitsText (n / 1000) (n % 1000) 3 "µs"
  else unitsText n 0 0 "ns"

end Duration
end Reachability
