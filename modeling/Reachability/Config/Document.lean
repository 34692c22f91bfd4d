/-
# Configurations as documents

A configuration is a table of its sections, a section a table of its fields.  What is not
given has its default, which for the directory of downloads lies among the temporary files; what
is not known is skipped.

Main definitions:

* `Config.toDocument` : all fields in order;
* `Config.ofDocument?` : the configuration that a document of some format gives.
-/
import Reachability.Config.Basic
import Reachability.Document.Basic

namespace Reachability

open Document

/-! ## Values -/

namespace Duration

/-- A duration as a document. -/
def toDocument (d : Duration) : Document :=
  .table [("secs", .integer d.secs), ("nanos", .integer d.nanos)]

/-- The names of a duration's parts. -/
def fieldNames : List String := ["secs", "nanos"]

/-- The duration that a document is: a table of both parts and nothing else, or a list of
them.  Surplus nanoseconds carry over. -/
def ofDocument? (format : Format) (d : Document) : Option Duration :=
  if !d.hasOnly fieldNames then none
  else match d.fields? format fieldNames with
    | some [secs, nanos] => do
        let secs ← required (asNatBelow? UInt64.size) secs
        let nanos ← required (asNatBelow? UInt32.size) nanos
        ofParts? secs nanos
    | _ => none

end Duration

/-- The 32-bit number that a document is. -/
def asUInt32? (d : Document) : Option UInt32 := (d.asNatBelow? UInt32.size).map UInt32.ofNat

/-- The 64-bit number that a document is. -/
def asUInt64? (d : Document) : Option UInt64 := (d.asNatBelow? UInt64.size).map UInt64.ofNat

/-- The path that a document is. -/
def asPath? (d : Document) : Option RawText := d.asText?.map RawText.ofText

/-! ## Sections -/

namespace PingConfig

/-- The section as a document. -/
def toDocument (c : PingConfig) : Document :=
  .table
    [("program", .text c.program), ("program_v6", .text c.programV6),
     ("args", .list (c.args.map .text)), ("packet_count", .integer c.packetCount.toNat),
     ("timeout", c.timeout.toDocument), ("attempts", .integer c.attempts.toNat),
     ("process_timeout", c.processTimeout.toDocument)]

/-- The names of the fields. -/
def fieldNames : List String :=
  ["program", "program_v6", "args", "packet_count", "timeout", "attempts", "process_timeout"]

/-- The section that a document is. -/
def ofDocument? (format : Format) (d : Document) : Option PingConfig :=
  let base : PingConfig := {}
  match d.fields? format fieldNames with
  | some [program, programV6, args, packetCount, timeout, attempts, processTimeout] => do
      return {
        program := ← withDefault asText? base.program program
        programV6 := ← withDefault asText? base.programV6 programV6
        args := ← withDefault (asListOf? asText?) base.args args
        packetCount := ← withDefault asUInt32? base.packetCount packetCount
        timeout := ← withDefault (Duration.ofDocument? format) base.timeout timeout
        attempts := ← withDefault asUInt32? base.attempts attempts
        processTimeout :=
          ← withDefault (Duration.ofDocument? format) base.processTimeout processTimeout }
  | _ => none

end PingConfig

namespace ConnectConfig

/-- The section as a document. -/
def toDocument (c : ConnectConfig) : Document :=
  .table [("timeout", c.timeout.toDocument), ("attempts", .integer c.attempts.toNat)]

/-- The names of the fields. -/
def fieldNames : List String := ["timeout", "attempts"]

/-- The section that a document is. -/
def ofDocument? (format : Format) (d : Document) : Option ConnectConfig :=
  let base : ConnectConfig := {}
  match d.fields? format fieldNames with
  | some [timeout, attempts] => do
      return {
        timeout := ← withDefault (Duration.ofDocument? format) base.timeout timeout
        attempts := ← withDefault asUInt32? base.attempts attempts }
  | _ => none

end ConnectConfig

namespace DownloadConfig

/-- The section as a document, in which the directory is shown. -/
def toDocument (c : DownloadConfig) : Document :=
  .table
    [("connect_timeout", c.connectTimeout.toDocument),
     ("read_timeout", c.readTimeout.toDocument),
     ("follow_redirects", .bool c.followRedirects),
     ("max_redirects", .integer c.maxRedirects.toNat),
     ("chunk_size", .integer c.chunkSize.toNat),
     ("poll_interval", c.pollInterval.toDocument),
     ("delete_after_download", .bool c.deleteAfterDownload),
     ("directory", .text c.directory.shown)]

/-- The names of the fields. -/
def fieldNames : List String :=
  ["connect_timeout", "read_timeout", "follow_redirects", "max_redirects", "chunk_size",
    "poll_interval", "delete_after_download", "directory"]

/-- The section that a document is. -/
def ofDocument? (temporary : RawText) (format : Format) (d : Document) : Option DownloadConfig :=
  let base := DownloadConfig.default temporary
  match d.fields? format fieldNames with
  | some [connectTimeout, readTimeout, followRedirects, maxRedirects, chunkSize, pollInterval,
      deleteAfterDownload, directory] => do
      return {
        connectTimeout :=
          ← withDefault (Duration.ofDocument? format) base.connectTimeout connectTimeout
        readTimeout := ← withDefault (Duration.ofDocument? format) base.readTimeout readTimeout
        followRedirects := ← withDefault asBool? base.followRedirects followRedirects
        maxRedirects := ← withDefault asUInt32? base.maxRedirects maxRedirects
        chunkSize := ← withDefault asUInt64? base.chunkSize chunkSize
        pollInterval := ← withDefault (Duration.ofDocument? format) base.pollInterval pollInterval
        deleteAfterDownload :=
          ← withDefault asBool? base.deleteAfterDownload deleteAfterDownload
        directory := ← withDefault asPath? base.directory directory }
  | _ => none

end DownloadConfig

namespace IdentityConfig

/-- The section as a document. -/
def toDocument (c : IdentityConfig) : Document :=
  .table [("retry_budget", .integer c.retryBudget.toNat)]

/-- The names of the fields. -/
def fieldNames : List String := ["retry_budget"]

/-- The section that a document is. -/
def ofDocument? (format : Format) (d : Document) : Option IdentityConfig :=
  let base : IdentityConfig := {}
  match d.fields? format fieldNames with
  | some [retryBudget] => do
      return { retryBudget := ← withDefault asUInt32? base.retryBudget retryBudget }
  | _ => none

end IdentityConfig

namespace LoggingConfig

/-- The section as a document. -/
def toDocument (c : LoggingConfig) : Document :=
  .table
    [("level", .text c.level.name), ("format", .text c.format.name),
     ("timestamps", .bool c.timestamps), ("module_names", .bool c.moduleNames)]

/-- The names of the fields. -/
def fieldNames : List String := ["level", "format", "timestamps", "module_names"]

/-- The section that a document is. -/
def ofDocument? (format : Format) (d : Document) : Option LoggingConfig :=
  let base : LoggingConfig := {}
  match d.fields? format fieldNames with
  | some [level, logFormat, timestamps, moduleNames] => do
      return {
        level := ← withDefault (asChoice? format LogLevel.all LogLevel.name) base.level level
        format :=
          ← withDefault (asChoice? format LogFormat.all LogFormat.name) base.format logFormat
        timestamps := ← withDefault asBool? base.timestamps timestamps
        moduleNames := ← withDefault asBool? base.moduleNames moduleNames }
  | _ => none

end LoggingConfig

/-! ## All sections -/

namespace Config

/-- A configuration as a document. -/
def toDocument (c : Config) : Document :=
  .table
    [("ping", c.ping.toDocument), ("connect", c.connect.toDocument),
     ("download", c.download.toDocument), ("identity", c.identity.toDocument),
     ("logging", c.logging.toDocument)]

/-- The names of the sections. -/
def fieldNames : List String := ["ping", "connect", "download", "identity", "logging"]

/-- The configuration that a document is. -/
def ofDocument? (temporary : RawText) (format : Format) (d : Document) : Option Config :=
  let base := Config.default temporary
  match d.fields? format fieldNames with
  | some [ping, connect, download, identity, logging] => do
      return {
        ping := ← withDefault (PingConfig.ofDocument? format) base.ping ping
        connect := ← withDefault (ConnectConfig.ofDocument? format) base.connect connect
        download :=
          ← withDefault (DownloadConfig.ofDocument? temporary format) base.download download
        identity := ← withDefault (IdentityConfig.ofDocument? format) base.identity identity
        logging := ← withDefault (LoggingConfig.ofDocument? format) base.logging logging }
  | _ => none

end Config
end Reachability
