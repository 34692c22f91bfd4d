/-
# Statistics of ping output

What the output of a ping program says about the packets.  Reading is all or nothing: if
any reply line or the last summary line has a malformed number, or if there is no summary
line, then there are no statistics, and every field holds a fixed value that no output
gives.

Main definitions:

* `Ping.count?`, `Ping.decimal?` : the numbers that are accepted;
* `Ping.Statistics.ofOutput?` : the statistics of an output;
* `Ping.Statistics.ofOutput` : the same, with the fixed values if there are none;
* `Ping.Reader` : a reader that remembers its last result.
-/
import Reachability.Number.Decimal
import Reachability.Ping.Reply

namespace Reachability.Ping

/-! ## Numbers -/

/-- The largest count. -/
def maxCount : Nat := 0x7fffffff

/-- A count: ASCII digits of a value up to the largest count, leading zeros allowed. -/
def count? (token : List Char) : Option Int32 :=
  if token.isEmpty || !token.all Text.isDigit then none
  else
    let n := Decimal.value token
    if n ≤ maxCount then some (Int32.ofNat n) else none

/-- At least one ASCII digit, and nothing else. -/
def isDigits (cs : List Char) : Bool :=
  !cs.isEmpty && cs.all Text.isDigit

/-- The whole part and the fraction of a number; a period is followed by a fraction. -/
def decimalParts? (token : List Char) : Option (List Char × List Char) :=
  match Text.cutFirst? '.' token with
  | some (whole, fraction) =>
      if isDigits whole && isDigits fraction then some (whole, fraction) else none
  | none => if isDigits token then some (token, []) else none

/-- A decimal: digits, and perhaps a period and more digits, of a value within the range
of doubles. -/
def decimal? (token : List Char) : Option Binary64 := do
  let (whole, fraction) ← decimalParts? token
  let x := Decimal.toBinary64 false (Decimal.value (whole ++ fraction)) (-(fraction.length : Int))
  if x.isFinite then some x else none

/-- A time without the unit that may follow it. -/
def withoutUnit (time : List Char) : List Char :=
  match time.reverse with
  | 's' :: 'm' :: digits => digits.reverse
  | _ => time

/-! ## Replies -/

/-- The numbers of one reply: its bytes, and its time if that is exact. -/
structure Measurement where
  bytes : Int32
  time : Option Binary64
deriving DecidableEq, Repr

/-- The numbers of a reply line, if they are well-formed.  A time that is only an upper
bound may be anything. -/
def Reply.measurement? (r : Reply) : Option Measurement := do
  let bytes ← count? r.bytes
  if r.exact then
    let time ← decimal? (withoutUnit r.time)
    some ⟨bytes, some time⟩
  else some ⟨bytes, none⟩

/-- The sum of times, in their order. -/
def sumOfTimes (times : List Binary64) : Binary64 :=
  times.foldl (· + ·) (Binary64.zero false)

/-- The mean of times, zero if there are none. -/
def meanTime (times : List Binary64) : Binary64 :=
  if times.isEmpty then Binary64.zero false
  else sumOfTimes times / Binary64.ofNat times.length

/-! ## Statistics -/

/-- What ping output says about the packets. -/
structure Statistics where
  valid : Bool
  packetsTransmitted : Int32
  packetsReceived : Int32
  /-- In percent. -/
  packetLoss : Binary64
  /-- The bytes of the first reply, -1 if there is none. -/
  bytes : Int32
  /-- The number of replies. -/
  validTimes : Int32
  /-- The mean of the exact times in milliseconds. -/
  averageTime : Binary64
deriving DecidableEq, Repr

namespace Statistics

/-- The fixed values that stand for no statistics. -/
def absent : Statistics :=
  { valid := false
    packetsTransmitted := -1
    packetsReceived := -1
    packetLoss := Binary64.ofInt (-1)
    bytes := -1
    validTimes := 0
    averageTime := Binary64.zero false }

instance : Inhabited Statistics := ⟨absent⟩

/-- The replies among the lines, in order. -/
def replies (lines : List (List Char)) : List Reply :=
  lines.filterMap Reply.find?

/-- The last summary among the lines. -/
def summary? (lines : List (List Char)) : Option Summary :=
  lines.reverse.findSome? Summary.find?

/-- The statistics of lines of output. -/
def ofLines? (lines : List (List Char)) : Option Statistics := do
  let measurements ← (replies lines).mapM Reply.measurement?
  let summary ← summary? lines
  let transmitted ← count? summary.transmitted
  let received ← count? summary.received
  let loss ← decimal? summary.loss
  some
    { valid := true
      packetsTransmitted := transmitted
      packetsReceived := received
      packetLoss := loss
      bytes := (measurements.head?.map (·.bytes)).getD (-1)
      validTimes := Int32.ofNat measurements.length
      averageTime := meanTime (measurements.filterMap (·.time)) }

/-- The statistics of an output. -/
def ofOutput? (output : String) : Option Statistics :=
  ofLines? (Text.lines output.toList)

/-- The statistics of an output, or the fixed values. -/
def ofOutput (output : String) : Statistics :=
  (ofOutput? output).getD absent

end Statistics

/-! ## A reader with a memory -/

/-- What a reader did last. -/
inductive ReaderState
  | idle
  | valid
  | invalid
deriving DecidableEq, Repr

/-- The name of a state. -/
def ReaderState.name : ReaderState → String
  | idle => "Idle"
  | valid => "Valid"
  | invalid => "Invalid"

/-- A reader of outputs that remembers its last result. -/
structure Reader where
  state : ReaderState
  statistics : Statistics
deriving DecidableEq, Repr

namespace Reader

/-- A reader that has read nothing. -/
def new : Reader := ⟨.idle, .absent⟩

/-- Reads an output; the result takes the place of the last one. -/
def read (_ : Reader) (output : String) : Reader :=
  match Statistics.ofOutput? output with
  | some statistics => ⟨.valid, statistics⟩
  | none => ⟨.invalid, .absent⟩

/-- Forgets the last result. -/
def reset (_ : Reader) : Reader := new

/-- Whether the last output had statistics. -/
def isValid (r : Reader) : Bool := r.statistics.valid

end Reader
end Reachability.Ping
