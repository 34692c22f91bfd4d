/-
# The connect probe

The probe opens a connection several times.  Each attempt looks the address up anew and
waits no longer than the timeout.

Main definitions:

* `Connect.resolve` : the endpoint for a typed address;
* `Connect.Connector` : what opens connections;
* `Connect.probeWith` : the probe, with a look-up of its own for each attempt;
* `Connect.probe` : the probe with one look-up.
-/
import Reachability.Config.Basic
import Reachability.Net.Address
import Reachability.Probe.Attempts
import Reachability.Time.Clock

namespace Reachability.Connect

/-! ## Endpoints -/

/-- Looks a host name up: its addresses, or why there are none. -/
abbrev NameLookup := String → Except String (List IpAddress)

/-- The endpoint for a typed address: an address stands for itself, a name for the first
address that the look-up finds. -/
def resolve (lookup : NameLookup) (address : String) (port : UInt16) :
    Except ProbeError Endpoint :=
  let host := bareHost address
  if host.isEmpty then .error (.invalidTarget "empty address")
  else match IpAddress.ofText? host with
    | some ip => .ok ⟨ip, port⟩
    | none =>
        match lookup host with
        | .error reason => .error (.dnsResolution (host ++ ": " ++ reason))
        | .ok [] => .error (.dnsResolution ("no addresses for " ++ host))
        | .ok (ip :: _) => .ok ⟨ip, port⟩

/-! ## Attempts -/

/-- How the opening of a connection goes, if it is not cut short. -/
inductive Opening
  /-- It ends after some time, open or with a failure. -/
  | ends (after : Duration) (result : Except SystemFailure Unit)
  /-- It never ends. -/
  | hangs
deriving Repr

/-- What opens connections; `σ` is what it remembers. -/
abbrev Connector (σ : Type) := Endpoint → σ → Opening × σ

/-- How an opening counts as an attempt.  One that takes just as long as the timeout is not
cut short; a timeout that the system reports is a timeout. -/
def attemptOf (timeout : Duration) (opening : Opening) (time : Duration) : Attempt :=
  match opening with
  | .hangs => .unanswered time
  | .ends after result =>
      if timeout.total < after.total then .unanswered time
      else match result with
        | .ok () => .answered time
        | .error failure =>
            if failure.kind = .timedOut then .unanswered time
            else .failed (.ofFailure failure)

/-- The counts, the clock and the connector after some attempts. -/
structure Progress (σ : Type) where
  tally : Tally
  clock : Clock
  connector : σ

/-- Makes one attempt.  The clock is read only if there is an endpoint to connect to. -/
def attempt {σ : Type} (lookup : NameLookup) (connect : Connector σ) (timeout : Duration)
    (address : String) (port : UInt16) (p : Progress σ) : Attempt × Clock × σ :=
  match resolve lookup address port with
  | .error e => (.failed e, p.clock, p.connector)
  | .ok endpoint =>
      let (start, clock) := p.clock.now
      let (opening, connector) := connect endpoint p.connector
      let (finish, clock) := clock.now
      (attemptOf timeout opening (Instant.elapsed start finish), clock, connector)

/-- Makes the given number of attempts; `lookupAt` tells how a name is looked up when so many
attempts were made before. -/
def attempts {σ : Type} (lookupAt : Nat → NameLookup) (connect : Connector σ) (timeout : Duration)
    (address : String) (port : UInt16) : Nat → Progress σ → Except Fault (Progress σ)
  | 0, p => .ok p
  | remaining + 1, p => do
      let (made, clock, connector) :=
        attempt (lookupAt p.tally.attempts) connect timeout address port p
      let tally ← p.tally.record made
      attempts lookupAt connect timeout address port remaining ⟨tally, clock, connector⟩

/-! ## The probe -/

/-- Connects to an address at a port.  No connection can be opened to port zero. -/
def probeWith {σ : Type} (c : ConnectConfig) (lookupAt : Nat → NameLookup) (connect : Connector σ)
    (address : String) (port : UInt16) (clock : Clock) (connector : σ) :
    Except Fault (AttemptSummary × Clock × σ) := do
  if port = 0 then
    return (.notStarted (.invalidTarget (address ++ ": port 0")), clock, connector)
  else
    let p ← attempts lookupAt connect c.timeout address port c.attempts.toNat
      ⟨{}, clock, connector⟩
    return (p.tally.summary, p.clock, p.connector)

/-- Connects to an address at a port, with a look-up that stays the same. -/
def probe {σ : Type} (c : ConnectConfig) (lookup : NameLookup) (connect : Connector σ)
    (address : String) (port : UInt16) (clock : Clock) (connector : σ) :
    Except Fault (AttemptSummary × Clock × σ) :=
  probeWith c (fun _ => lookup) connect address port clock connector

end Reachability.Connect
