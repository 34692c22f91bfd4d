/-
# Configuration

What the probes, the drawing of identities and the log can be told.

Main definitions:

* `Config` and its sections, with the defaults of their fields;
* `Config.default` : the default configuration, given the directory for temporary files;
* `Config.validate` : the first rule that a configuration breaks.
-/
import Reachability.Error
import Reachability.File.Path
import Reachability.Text.Split
import Reachability.Time.Duration

namespace Reachability

/-! ## Limits and placeholders -/

/-- Stands for the address in the arguments of the ping command. -/
def addressPlaceholder : String := "\x7baddress\x7d"

/-- Stands for the number of packets. -/
def countPlaceholder : String := "\x7bcount\x7d"

/-- Stands for the timeout in seconds. -/
def timeoutPlaceholder : String := "\x7btimeout\x7d"

/-- The largest number of attempts of one probe. -/
def maxAttempts : Nat := 10

/-- The largest number of bytes that a download copies between two looks at its task. -/
def maxChunkSize : Nat := 1024 * 1024

/-! ## Sections -/

/-- How to ping. -/
structure PingConfig where
  /-- The program for host names and IPv4 addresses. -/
  program : String := "ping"
  /-- The program for IPv6 addresses. -/
  programV6 : String := "ping6"
  args : List String :=
    ["-c", countPlaceholder, "-W", timeoutPlaceholder, addressPlaceholder]
  packetCount : UInt32 := 3
  timeout : Duration := .ofSecs 5
  attempts : UInt32 := 1
  /-- The longest that one run of the program may take. -/
  processTimeout : Duration := .ofSecs 30
deriving DecidableEq, Repr

/-- How to connect. -/
structure ConnectConfig where
  timeout : Duration := .ofSecs 5
  attempts : UInt32 := 3
deriving DecidableEq, Repr

/-- How to download. -/
structure DownloadConfig where
  connectTimeout : Duration := .ofSecs 10
  readTimeout : Duration := .ofSecs 15
  followRedirects : Bool := true
  maxRedirects : UInt32 := 20
  chunkSize : UInt64 := 8192
  pollInterval : Duration := .ofSecs 5
  deleteAfterDownload : Bool := true
  directory : RawText
deriving DecidableEq, Repr

/-- How to download by default: into a place of its own among the temporary files. -/
def DownloadConfig.default (temporary : RawText) : DownloadConfig :=
  { directory := temporary.join "netkeeper" }

/-- How identities are drawn. -/
structure IdentityConfig where
  retryBudget : UInt32 := 100
deriving DecidableEq, Repr

/-- How much is logged, from the least to the most. -/
inductive LogLevel
  | error
  | warn
  | info
  | debug
  | trace
deriving DecidableEq, Repr

namespace LogLevel

/-- All levels. -/
def all : List LogLevel := [error, warn, info, debug, trace]

/-- The name of a level. -/
def name : LogLevel → String
  | error => "error"
  | warn => "warn"
  | info => "info"
  | debug => "debug"
  | trace => "trace"

end LogLevel

/-- The form of a log line. -/
inductive LogFormat
  | human
  | json
deriving DecidableEq, Repr

namespace LogFormat

/-- All forms. -/
def all : List LogFormat := [human, json]

/-- The name of a form. -/
def name : LogFormat → String
  | human => "human"
  | json => "json"

end LogFormat

/-- What is logged. -/
structure LoggingConfig where
  level : LogLevel := .info
  format : LogFormat := .human
  timestamps : Bool := true
  moduleNames : Bool := true
deriving DecidableEq, Repr

/-- A configuration. -/
structure Config where
  ping : PingConfig := {}
  connect : ConnectConfig := {}
  download : DownloadConfig
  identity : IdentityConfig := {}
  logging : LoggingConfig := {}
deriving DecidableEq, Repr

/-- The default configuration. -/
def Config.default (temporary : RawText) : Config := { download := .default temporary }

/-! ## Rules -/

namespace Config

/-- A timeout is longer than nothing. -/
def checkTimeout (field : String) (d : Duration) : Except ConfigError Unit :=
  if d.isZero then .error (.invalidTimeout field d.millis) else .ok ()

/-- There is at least one attempt and not more than the limit. -/
def checkAttempts (field : String) (n : UInt32) : Except ConfigError Unit :=
  if n.toNat = 0 ∨ maxAttempts < n.toNat then .error (.invalidAttempts field n.toNat) else .ok ()

/-- A chunk is not empty and not larger than the limit. -/
def checkChunkSize (n : UInt64) : Except ConfigError Unit :=
  if n.toNat = 0 ∨ maxChunkSize < n.toNat then .error (.invalidChunkSize n.toNat) else .ok ()

/-- Both programs have a name and the address is handed to them. -/
def checkCommand (c : PingConfig) : Except ConfigError Unit :=
  if Text.isBlankText c.program || Text.isBlankText c.programV6 then
    .error (.invalidTemplate "ping program must not be empty")
  else if c.args.any fun arg => Text.occurs addressPlaceholder.toList arg.toList then .ok ()
  else .error (.invalidTemplate ("arguments must contain " ++ addressPlaceholder))

/-- The first rule that the configuration breaks. -/
def validate (c : Config) : Except ConfigError Unit := do
  checkTimeout "ping.timeout" c.ping.timeout
  checkTimeout "ping.process_timeout" c.ping.processTimeout
  checkTimeout "connect.timeout" c.connect.timeout
  checkTimeout "download.connect_timeout" c.download.connectTimeout
  checkTimeout "download.read_timeout" c.download.readTimeout
  checkTimeout "download.poll_interval" c.download.pollInterval
  checkAttempts "ping.attempts" c.ping.attempts
  checkAttempts "ping.packet_count" c.ping.packetCount
  checkAttempts "connect.attempts" c.connect.attempts
  checkChunkSize c.download.chunkSize
  checkCommand c.ping

end Config
end Reachability
