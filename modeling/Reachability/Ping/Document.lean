/-
# Results of pings as documents

Main definitions:

* `Ping.Statistics.toDocument`, `Ping.Statistics.ofDocument?`;
* `Ping.Result.toDocument`, `Ping.Result.ofDocument?`.
-/
import Reachability.Ping.Probe
import Reachability.Probe.Document

namespace Reachability.Ping.Statistics

open Document

/-- The count that a document is. -/
def count? (d : Document) : Option Int32 :=
  (d.asIntWithin? Int32.minValue.toInt Int32.maxValue.toInt).map Int32.ofInt

/-- Statistics as a document. -/
def toDocument (s : Statistics) : Document :=
  .table
    [("valid", .bool s.valid),
     ("packets_transmitted", .integer s.packetsTransmitted.toInt),
     ("packets_received", .integer s.packetsReceived.toInt),
     ("packet_loss", .real s.packetLoss),
     ("bytes", .integer s.bytes.toInt),
     ("valid_times", .integer s.validTimes.toInt),
     ("average_time", .real s.averageTime)]

/-- The names of the fields. -/
def fieldNames : List String :=
  ["valid", "packets_transmitted", "packets_received", "packet_loss", "bytes", "valid_times",
    "average_time"]

/-- The statistics that a document is. -/
def ofDocument? (d : Document) : Option Statistics :=
  match d.fields? .json fieldNames with
  | some [valid, transmitted, received, loss, bytes, validTimes, average] => do
      return {
        valid := ← required asBool? valid
        packetsTransmitted := ← required count? transmitted
        packetsReceived := ← required count? received
        packetLoss := ← required asReal? loss
        bytes := ← required count? bytes
        validTimes := ← required count? validTimes
        averageTime := ← required asReal? average }
  | _ => none

end Reachability.Ping.Statistics

namespace Reachability.Ping.Result

open Document

/-- A result as a document. -/
def toDocument (r : Result) : Document :=
  .table
    [("aggregate", r.aggregate.toDocument),
     ("command", .text r.command),
     ("output", .text r.output),
     ("exit_code", (r.exitCode.map fun code => Document.integer code.toInt).getD .null),
     ("statistics", r.statistics.toDocument)]

/-- The names of the fields. -/
def fieldNames : List String := ["aggregate", "command", "output", "exit_code", "statistics"]

/-- The result that a document is. -/
def ofDocument? (d : Document) : Option Result :=
  match d.fields? .json fieldNames with
  | some [aggregate, command, output, exitCode, statistics] => do
      return {
        aggregate := ← required AttemptSummary.ofDocument? aggregate
        command := ← required asText? command
        output := ← required asText? output
        exitCode := ← optional Statistics.count? d.isPositional exitCode
        statistics := ← required Statistics.ofDocument? statistics }
  | _ => none

end Reachability.Ping.Result
