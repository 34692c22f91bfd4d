/-
# The ping command

The command line for an address, made from the configured arguments by putting the number
of packets, the timeout and the address in the places held for them.

Main definitions:

* `Ping.timeoutSeconds` : the timeout in whole seconds;
* `Ping.command` : the command line.
-/
import Reachability.Config.Basic
import Reachability.Net.Address
import Reachability.Process.Basic

namespace Reachability.Ping

/-- The seconds that a 64-bit number cannot hold. -/
def secondsLimit : Nat := UInt64.size

/-- The timeout in whole seconds, rounded up, at least one. -/
def timeoutSeconds (timeout : Duration) : Except Fault Nat :=
  if timeout.ceilSecs ≥ secondsLimit then .error .additionOverflow
  else .ok (max timeout.ceilSecs 1)

/-- Puts one text in all the places held by another. -/
def fill (placeholder : String) (value : List Char) (arg : List Char) : List Char :=
  Text.replaceAll placeholder.toList value arg

/-- An argument with all its places filled: first the number of packets, then the timeout,
then the address. -/
def renderArgument (packetCount : UInt32) (seconds : Nat) (host : String) (arg : String) : String :=
  let cs := fill countPlaceholder (Decimal.digits packetCount.toNat) arg.toList
  let cs := fill timeoutPlaceholder (Decimal.digits seconds) cs
  String.ofList (fill addressPlaceholder host.toList cs)

/-- The program for a host: there is one of its own for IPv6 addresses. -/
def programFor (c : PingConfig) (host : String) : String :=
  if (Ipv6.ofText? host).isSome then c.programV6 else c.program

/-- The command line for an address. -/
def command (c : PingConfig) (address : String) : Except Fault CommandLine := do
  let host := bareHost address
  let seconds ← timeoutSeconds c.timeout
  return ⟨programFor c host, c.args.map (renderArgument c.packetCount seconds host)⟩

end Reachability.Ping
