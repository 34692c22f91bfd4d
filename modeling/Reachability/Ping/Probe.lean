/-
# The ping probe

The probe runs the ping command several times.  A run that ends well is a success; one that
ends otherwise, or takes too long, counts as a timeout; a command that cannot be started
ends the probe.  The statistics are those of the last run that ended.

Main definitions:

* `Ping.Result` : what the probe came to;
* `Ping.Executor` : what runs command lines;
* `Ping.probe` : the probe.
-/
import Reachability.Ping.Command
import Reachability.Ping.Statistics
import Reachability.Probe.Attempts
import Reachability.Time.Clock

namespace Reachability.Ping

/-- What a probe came to. -/
structure Result where
  aggregate : AttemptSummary
  /-- The command line. -/
  command : String
  /-- The text of the last run that ended. -/
  output : String
  exitCode : Option Int32
  statistics : Statistics
deriving DecidableEq, Repr

/-- What runs a command line within a limit of time; `σ` is what it remembers. -/
abbrev Executor (σ : Type) := CommandLine → Duration → σ → Except ProbeError ProcessOutput × σ

/-! ## Runs -/

/-- How a run counts as an attempt. -/
def attemptOf (run : Except ProbeError ProcessOutput) (time : Duration) : Attempt :=
  match run with
  | .ok output => if output.isSuccess then .answered time else .unanswered time
  | .error .timeout => .unanswered time
  | .error e => .failed e

/-- Whether a run shows that the command cannot be started at all. -/
def endsProbe : Except ProbeError ProcessOutput → Bool
  | .error (.spawn _) => true
  | _ => false

/-- The counts, the last output, the clock and the executor after some runs. -/
structure Progress (σ : Type) where
  tally : Tally
  lastOutput : Option ProcessOutput
  clock : Clock
  executor : σ

/-- Makes up to the given number of runs. -/
def runs {σ : Type} (execute : Executor σ) (command : CommandLine) (limit : Duration) :
    Nat → Progress σ → Except Fault (Progress σ)
  | 0, p => .ok p
  | remaining + 1, p => do
      let (start, clock) := p.clock.now
      let (run, executor) := execute command limit p.executor
      let (finish, clock) := clock.now
      let tally ← p.tally.record (attemptOf run (Instant.elapsed start finish))
      let lastOutput := run.toOption.or p.lastOutput
      let p := { tally, lastOutput, clock, executor }
      if endsProbe run then .ok p else runs execute command limit remaining p

/-! ## The probe -/

/-- The result after all runs. -/
def resultOf {σ : Type} (command : CommandLine) (p : Progress σ) : Result :=
  let aggregate := p.tally.summary
  match p.lastOutput with
  | some output =>
      { aggregate
        command := command.text
        output := output.text
        exitCode := output.exitCode
        statistics := Statistics.ofOutput output.text }
  | none =>
      { aggregate
        command := command.text
        output := ""
        exitCode := none
        statistics := .absent }

/-- Pings an address. -/
def probe {σ : Type} (c : PingConfig) (execute : Executor σ) (address : String) (clock : Clock)
    (executor : σ) : Except Fault (Result × Clock × σ) := do
  let command ← Ping.command c address
  let p ← runs execute command c.processTimeout c.attempts.toNat ⟨{}, none, clock, executor⟩
  return (resultOf command p, p.clock, p.executor)

end Reachability.Ping
