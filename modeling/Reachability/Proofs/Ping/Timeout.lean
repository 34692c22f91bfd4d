/-
# The timeout on the command line

The ping command is told its timeout in whole seconds.  These are the least that are not shorter
than the timeout; since an accepted timeout is longer than nothing, there is at least one.  An
accepted timeout may be as long as any duration, and for those of the last second that a duration
can have there is no such number of 64 bits.

Main results:

* `isLeast_ceilSecs` : rounding up gives the least number of seconds that is not shorter;
* `timeoutSeconds_eq_ok`, `timeoutSeconds_eq_error_iff` : the number that is told, and when there
  is none;
* `timeout_told_iff` : the command line of an accepted configuration;
* `untold_for_longest_timeout` : an accepted configuration for which there is none.
-/
import Mathlib.Order.Bounds.Basic
import Reachability.Proofs.Ping.Template

namespace Reachability.Ping

/-! ## Whole seconds -/

/-- Rounding up gives the least number of seconds that is not shorter. -/
theorem isLeast_ceilSecs (d : Duration) :
    IsLeast {n | d.total ≤ n * nanosPerSecond} d.ceilSecs := by
  unfold Duration.ceilSecs nanosPerSecond
  constructor
  · rw [Set.mem_ofPred_eq]
    omega
  · intro n enough
    rw [Set.mem_ofPred_eq] at enough
    omega

theorem one_le_ceilSecs {d : Duration} (h : 0 < d.total) : 1 ≤ d.ceilSecs := by
  unfold Duration.ceilSecs nanosPerSecond
  omega

/-- The longest timeout that can be told, in nanoseconds. -/
def longestTold : Nat := (secondsLimit - 1) * nanosPerSecond

theorem ceilSecs_lt_secondsLimit_iff {d : Duration} :
    d.ceilSecs < secondsLimit ↔ d.total ≤ longestTold := by
  unfold Duration.ceilSecs longestTold secondsLimit UInt64.size nanosPerSecond
  omega

/-- A timeout that is not too long is told by the seconds that it takes, rounded up. -/
theorem timeoutSeconds_eq_ok {d : Duration} (some : 0 < d.total) (short : d.total ≤ longestTold) :
    timeoutSeconds d = .ok d.ceilSecs := by
  rw [timeoutSeconds, if_neg (Nat.not_le.2 (ceilSecs_lt_secondsLimit_iff.2 short)),
    Nat.max_eq_left (one_le_ceilSecs some)]

/-- Only a timeout that is too long cannot be told. -/
theorem timeoutSeconds_eq_error_iff {d : Duration} {fault : Fault} :
    timeoutSeconds d = .error fault ↔ longestTold < d.total ∧ fault = .additionOverflow := by
  rw [← Nat.not_le, ← ceilSecs_lt_secondsLimit_iff, timeoutSeconds]
  split
  case isTrue long =>
    rw [Except.error.injEq, eq_comm]
    exact (and_iff_right (Nat.not_lt.2 long)).symm
  case isFalse short =>
    refine iff_of_false (fun impossible => by cases impossible) ?_
    rintro ⟨long, -⟩
    exact short (Nat.not_lt.1 long)

/-! ## The command line -/

/-- The command line once the seconds are known. -/
theorem command_of_timeoutSeconds {c : PingConfig} {seconds : Nat}
    (told : timeoutSeconds c.timeout = .ok seconds) (address : String) :
    Ping.command c address = .ok ⟨programFor c (bareHost address),
      c.args.map (renderArgument c.packetCount seconds (bareHost address))⟩ := by
  rw [Ping.command, told]
  rfl

/-- **The timeout on the command line.**  For an accepted configuration and any address there is a
command line exactly if the timeout does not reach into the last second that a duration can have.
In its places for the timeout then stands the least whole number of seconds that is not shorter than
the timeout, which is at least one.  A longer timeout overflows. -/
theorem timeout_told_iff (c : Config) (accepted : c.validate = .ok ()) (address : String) :
    (Ping.command c.ping address = .error .additionOverflow ↔ longestTold < c.ping.timeout.total) ∧
    (c.ping.timeout.total ≤ longestTold →
      ∃ command seconds, Ping.command c.ping address = .ok command ∧
        IsLeast {n | c.ping.timeout.total ≤ n * nanosPerSecond} seconds ∧ 1 ≤ seconds ∧
        command.args.map String.toList = c.ping.args.map fun arg =>
          substitute (values c.ping.packetCount seconds (bareHost address).toList) arg.toList) := by
  have some := (Config.validate_eq_ok_iff.1 accepted).pingTimeout
  constructor
  · constructor
    · intro overflows
      by_contra short
      have told := timeoutSeconds_eq_ok some (Nat.not_lt.1 short)
      rw [command_of_timeoutSeconds told] at overflows
      cases overflows
    · intro long
      rw [Ping.command, timeoutSeconds_eq_error_iff.2 ⟨long, rfl⟩]
      rfl
  · intro short
    refine ⟨_, c.ping.timeout.ceilSecs,
      command_of_timeoutSeconds (timeoutSeconds_eq_ok some short) address,
      isLeast_ceilSecs c.ping.timeout, one_le_ceilSecs some, ?_⟩
    rw [List.map_map]
    exact List.map_congr_left fun arg _ => toList_renderArgument _ _ _ arg

/-- A configuration with the longest timeout that can be told: the largest number of seconds, and no
nanosecond more. -/
def longestTimeout : Config :=
  { Config.default "/tmp" with ping := { timeout := ⟨longestTold, by decide⟩ } }

theorem timeout_told_at_limit :
    longestTimeout.validate = .ok () ∧
    ∃ command seconds,
      Ping.command longestTimeout.ping "h" = .ok command ∧
        IsLeast {n | longestTold ≤ n * nanosPerSecond} seconds ∧
        command = ⟨"ping", ["-c", "3", "-W", "18446744073709551615", "h"]⟩ := by
  have accepted : longestTimeout.validate = .ok () := by decide +kernel
  obtain ⟨command, seconds, rendered, least, -⟩ :=
    (timeout_told_iff longestTimeout accepted "h").2 (Nat.le_refl _)
  have evaluated : Ping.command longestTimeout.ping "h" =
      .ok ⟨"ping", ["-c", "3", "-W", "18446744073709551615", "h"]⟩ := by decide +kernel
  exact ⟨accepted, command, seconds, rendered, least,
    Except.ok.inj (rendered.symm.trans evaluated)⟩

/-- A configuration whose timeout is a nanosecond longer than the longest that can be told. -/
def untoldTimeout : Config :=
  { Config.default "/tmp" with ping := { timeout := ⟨longestTold + 1, by decide⟩ } }

/-- A nanosecond more overflows, although the configuration is accepted. -/
theorem untold_for_longest_timeout :
    untoldTimeout.validate = .ok () ∧
      Ping.command untoldTimeout.ping "h" = .error .additionOverflow := by
  decide +kernel

end Reachability.Ping
