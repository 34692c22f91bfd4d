/-
# Accepted configurations

A configuration is accepted if it breaks none of the rules; here the rules are said all at once.

Main definitions:

* `Config.IsAccepted` : what holds of an accepted configuration.

Main results:

* `checkTimeout_eq_ok_iff`, `checkAttempts_eq_ok_iff`, `checkChunkSize_eq_ok_iff`,
  `checkCommand_eq_ok_iff` : the single rules;
* `validate_eq_ok_iff` : exactly the accepted configurations break no rule.
-/
import Reachability.Config.Basic
import Reachability.Proofs.Text.Searching

namespace Reachability.Config

/-! ## Single rules -/

/-- A check and what follows it come through if both do. -/
theorem andThen_eq_ok_iff {ε α : Type} {check : Except ε Unit} {rest : Except ε α} {a : α} :
    (check >>= fun _ => rest) = .ok a ↔ check = .ok () ∧ rest = .ok a := by
  cases check with
  | error e =>
    constructor
    · intro h
      cases h
    · rintro ⟨h, -⟩
      cases h
  | ok u => exact ⟨fun h => ⟨rfl, h⟩, fun h => h.2⟩

/-- What is rejected otherwise comes through if nothing is wrong with it. -/
theorem reject_eq_ok_iff {ε α : Type} {wrong : Prop} [Decidable wrong] {e : ε} {rest : Except ε α}
    {a : α} : (if wrong then .error e else rest) = .ok a ↔ ¬wrong ∧ rest = .ok a := by
  split
  case isTrue h =>
    constructor
    · intro impossible
      cases impossible
    · rintro ⟨fine, -⟩
      exact absurd h fine
  case isFalse h => exact ⟨fun through => ⟨h, through⟩, fun through => through.2⟩

theorem checkTimeout_eq_ok_iff {field : String} {d : Duration} :
    checkTimeout field d = .ok () ↔ 0 < d.total := by
  rw [checkTimeout, reject_eq_ok_iff, Duration.isZero, beq_iff_eq, Nat.pos_iff_ne_zero]
  exact and_iff_left rfl

theorem checkAttempts_eq_ok_iff {field : String} {n : UInt32} :
    checkAttempts field n = .ok () ↔ 1 ≤ n.toNat ∧ n.toNat ≤ maxAttempts := by
  rw [checkAttempts, reject_eq_ok_iff]
  constructor
  · rintro ⟨inside, -⟩
    omega
  · intro inside
    exact ⟨by omega, rfl⟩

theorem checkChunkSize_eq_ok_iff {n : UInt64} :
    checkChunkSize n = .ok () ↔ 1 ≤ n.toNat ∧ n.toNat ≤ maxChunkSize := by
  rw [checkChunkSize, reject_eq_ok_iff]
  constructor
  · rintro ⟨inside, -⟩
    omega
  · intro inside
    exact ⟨by omega, rfl⟩

theorem checkCommand_eq_ok_iff {c : PingConfig} : checkCommand c = .ok () ↔
    Text.isBlankText c.program = false ∧ Text.isBlankText c.programV6 = false ∧
      ∃ arg ∈ c.args, addressPlaceholder.toList <:+: arg.toList := by
  have handed : (c.args.any fun arg => Text.occurs addressPlaceholder.toList arg.toList) = true ↔
      ∃ arg ∈ c.args, addressPlaceholder.toList <:+: arg.toList := by
    simp only [List.any_eq_true, Text.occurs_iff]
  rw [checkCommand, reject_eq_ok_iff, Bool.or_eq_true, not_or, Bool.not_eq_true, Bool.not_eq_true,
    and_assoc, ← handed]
  refine and_congr_right fun _ => and_congr_right fun _ => ?_
  split
  case isTrue found => exact iff_of_true rfl found
  case isFalse lost => exact iff_of_false (fun impossible => by cases impossible) lost

/-! ## All rules -/

/-- The timeouts are longer than nothing, the numbers of attempts and packets and the size of a
chunk are within their bounds, both programs have a name, and the address is handed to them. -/
structure IsAccepted (c : Config) : Prop where
  pingTimeout : 0 < c.ping.timeout.total
  processTimeout : 0 < c.ping.processTimeout.total
  connectTimeout : 0 < c.connect.timeout.total
  downloadTimeout : 0 < c.download.connectTimeout.total
  readTimeout : 0 < c.download.readTimeout.total
  pollInterval : 0 < c.download.pollInterval.total
  pingAttempts : 1 ≤ c.ping.attempts.toNat ∧ c.ping.attempts.toNat ≤ maxAttempts
  packetCount : 1 ≤ c.ping.packetCount.toNat ∧ c.ping.packetCount.toNat ≤ maxAttempts
  connectAttempts : 1 ≤ c.connect.attempts.toNat ∧ c.connect.attempts.toNat ≤ maxAttempts
  chunkSize : 1 ≤ c.download.chunkSize.toNat ∧ c.download.chunkSize.toNat ≤ maxChunkSize
  program : Text.isBlankText c.ping.program = false
  programV6 : Text.isBlankText c.ping.programV6 = false
  address : ∃ arg ∈ c.ping.args, addressPlaceholder.toList <:+: arg.toList

/-- Exactly the accepted configurations break no rule. -/
theorem validate_eq_ok_iff {c : Config} : c.validate = .ok () ↔ c.IsAccepted := by
  simp only [validate, andThen_eq_ok_iff, checkTimeout_eq_ok_iff, checkAttempts_eq_ok_iff,
    checkChunkSize_eq_ok_iff, checkCommand_eq_ok_iff]
  constructor
  · rintro ⟨h1, h2, h3, h4, h5, h6, h7, h8, h9, h10, h11, h12, h13⟩
    exact ⟨h1, h2, h3, h4, h5, h6, h7, h8, h9, h10, h11, h12, h13⟩
  · rintro ⟨h1, h2, h3, h4, h5, h6, h7, h8, h9, h10, h11, h12, h13⟩
    exact ⟨h1, h2, h3, h4, h5, h6, h7, h8, h9, h10, h11, h12, h13⟩

end Reachability.Config
