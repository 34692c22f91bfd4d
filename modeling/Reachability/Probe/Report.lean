/-
# Reports

An outcome in lines of text for a reader.

Main definitions:

* `Report.milliseconds` : a duration;
* `Outcome.report` : the report.
-/
import Reachability.Probe.Outcome

namespace Reachability

namespace Report

/-- A line under the heading, with a label. -/
def item (label text : String) : String := "  " ++ label ++ ": " ++ text ++ "\n"

/-- A line under the heading. -/
def remark (text : String) : String := "  " ++ text ++ "\n"

/-- A duration in seconds as a double. -/
def seconds (d : Duration) : Binary64 :=
  .add (.ofNat d.secs) (.div (.ofNat d.nanos) (.ofNat nanosPerSecond))

/-- A duration in milliseconds with one place. -/
def milliseconds (d : Duration) : String :=
  Decimal.fixed 1 (.mul (seconds d) (.ofNat 1000)) ++ " ms"

/-! ## Kinds of results -/

/-- The counts of attempts and, if some were answered, how long they took. -/
def attempts (s : AttemptSummary) : String :=
  item "attempts"
    (Decimal.ofNat s.attempts.toNat ++ " (" ++ Decimal.ofNat s.successfulAttempts.toNat ++
      " ok, " ++ Decimal.ofNat s.timeouts.toNat ++ " timeouts, " ++
      Decimal.ofNat s.errors.toNat ++ " errors)") ++
    if s.successfulAttempts = 0 then "" else item "average" (milliseconds s.averageDuration)

/-- The counts and times of valid statistics. -/
def statistics (s : Ping.Statistics) : String :=
  item "packets"
    (Decimal.ofInt s.packetsTransmitted.toInt ++ " sent, " ++
      Decimal.ofInt s.packetsReceived.toInt ++ " received, " ++
      Decimal.plain s.packetLoss ++ "% loss") ++
  item "rtt"
    (Decimal.fixed 3 s.averageTime ++ " ms over " ++ Decimal.ofInt s.validTimes.toInt ++
      " replies of " ++ Decimal.ofInt s.bytes.toInt ++ " bytes")

/-- The result of a ping.  An output without statistics is shown as it is. -/
def ping (r : Ping.Result) : String :=
  item "command" r.command ++ attempts r.aggregate ++
    r.exitCode.elim "" (fun code => item "exit code" (Decimal.ofInt code.toInt)) ++
    if r.statistics.valid then statistics r.statistics
    else if r.output.isEmpty then ""
    else item "output" r.output

/-- The answers of a download, in order. -/
def answers (r : Download.Result) : String :=
  if r.httpCodes.isEmpty then ""
  else
    item "http" (" -> ".intercalate
      ((r.httpCodes.zip r.httpMessages).map fun (code, message) =>
        Decimal.ofNat code.toNat ++ " " ++ message))

/-- What became of the task during a download. -/
def change (r : Download.Result) : String :=
  if r.stopped then remark "task was stopped"
  else if r.valid then ""
  else remark "task was deleted or rescheduled"

/-- The result of a download. -/
def download (r : Download.Result) : String :=
  item "url" r.url ++ answers r ++
    String.join (r.diagnostics.map (item "note")) ++
    r.fileName.elim "" (item "file") ++
    item "transfer"
      (Decimal.ofNat r.bytesTransferred.toNat ++ " bytes in " ++ milliseconds r.duration) ++
    change r ++
    if r.fileExists then item "file state" (if r.deleteSuccess then "deleted" else "kept")
    else ""

end Report

namespace Outcome

/-- The lines about the result. -/
def details : Outcome → String
  | ping r => Report.ping r
  | connect s => Report.attempts s
  | download r => Report.download r

/-- An outcome in lines of text. -/
def report (o : Outcome) : String :=
  String.ofList (o.kind.name.toList.map Char.toUpper) ++
    (if o.isSuccess then " ok" else " failed") ++ "\n" ++ o.details ++
    o.error?.elim "" fun e => Report.item "error" e.message

end Outcome
end Reachability
