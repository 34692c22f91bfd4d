/-
# What a summary says of its attempts

The attempts of a probe are counted one after another.  Here it is said of the list of attempts as
a whole what the counts and the mean have to be, and that the summary says just that, unless the
successes took too long together to be added up.

Main definitions:

* `Attempt.time?`, `Attempt.isUnanswered`, `Attempt.error?`, `Attempt.CountsAs` : what an attempt
  counts as;
* `Duration.sumNanos`, `Duration.meanNanos` : the sum and the mean of durations;
* `AttemptSummary.Reports` : a summary that says of what was attempted what is to be said;
* `AttemptSummary.IsOf` : the same of attempts;
* `Tally.Counts` : the counts after further attempts.

Main results:

* `meanNanos_between` : the mean lies between the shortest and the longest duration;
* `parts_add`, `parts_share` : sums and shares in seconds and nanoseconds;
* `record_cases`, `foldlM_record` : one attempt and a list of attempts are counted;
* `exists_tally_of_spans` : what the attempts of one probe take is never too long;
* `ofAttempts_cases` : a list of attempts has a summary, or took too long;
* `summary_of_attempts` : what the summary says, and what it does not depend on.
-/
import Mathlib.Data.List.Basic
import Reachability.Config.Basic
import Reachability.Probe.Attempts
import Reachability.Proofs.Time.Clock

namespace Reachability

/-! ## Sums and means of durations -/

namespace Duration

/-- The nanoseconds of several durations together. -/
def sumNanos : List Duration → Nat
  | [] => 0
  | d :: ds => d.total + sumNanos ds

/-- The nanoseconds of the mean, rounded down; none without durations. -/
def meanNanos (ds : List Duration) : Nat := sumNanos ds / ds.length

theorem sumNanos_append (ds es : List Duration) :
    sumNanos (ds ++ es) = sumNanos ds + sumNanos es := by
  induction ds with
  | nil => exact (Nat.zero_add _).symm
  | cons d ds ih =>
    show d.total + sumNanos (ds ++ es) = d.total + sumNanos ds + sumNanos es
    omega

theorem sumNanos_perm {ds es : List Duration} (h : ds.Perm es) : sumNanos ds = sumNanos es := by
  induction h with
  | nil => rfl
  | cons d _ ih => exact congrArg (d.total + ·) ih
  | swap d e ds =>
    show e.total + (d.total + sumNanos ds) = d.total + (e.total + sumNanos ds)
    omega
  | trans _ _ ih ih' => exact ih.trans ih'

/-- Durations that are all below a bound are, together, not above that many times the bound. -/
theorem sumNanos_le {ds : List Duration} {bound : Nat} (h : ∀ d ∈ ds, d.total ≤ bound) :
    sumNanos ds ≤ ds.length * bound := by
  induction ds with
  | nil => exact Nat.zero_le _
  | cons d ds ih =>
    rw [List.forall_mem_cons] at h
    have rest := ih h.2
    have first := h.1
    show d.total + sumNanos ds ≤ (ds.length + 1) * bound
    rw [Nat.add_mul]
    omega

theorem le_sumNanos {ds : List Duration} {bound : Nat} (h : ∀ d ∈ ds, bound ≤ d.total) :
    ds.length * bound ≤ sumNanos ds := by
  induction ds with
  | nil => exact Nat.le_of_eq (Nat.zero_mul _)
  | cons d ds ih =>
    rw [List.forall_mem_cons] at h
    have rest := ih h.2
    have first := h.1
    show (ds.length + 1) * bound ≤ d.total + sumNanos ds
    rw [Nat.add_mul]
    omega

/-- Among some durations there is a shortest one and a longest one. -/
theorem exists_extremes {ds : List Duration} (h : ds ≠ []) :
    ∃ shortest ∈ ds, ∃ longest ∈ ds,
      ∀ d ∈ ds, shortest.total ≤ d.total ∧ d.total ≤ longest.total := by
  induction ds with
  | nil => exact absurd rfl h
  | cons d ds ih =>
    by_cases alone : ds = []
    · subst alone
      exact ⟨d, by simp, d, by simp, by simp⟩
    · obtain ⟨shortest, hs, longest, hl, between⟩ := ih alone
      refine ⟨if d.total ≤ shortest.total then d else shortest, ?_,
        if longest.total ≤ d.total then d else longest, ?_, ?_⟩
      · split
        · exact List.mem_cons_self
        · exact List.mem_cons_of_mem _ hs
      · split
        · exact List.mem_cons_self
        · exact List.mem_cons_of_mem _ hl
      · intro e he
        rcases List.mem_cons.1 he with rfl | he
        · constructor <;> split <;> omega
        · have inside := between e he
          constructor <;> split <;> omega

/-- The mean lies between the shortest and the longest duration. -/
theorem meanNanos_between {ds : List Duration} (h : ds ≠ []) :
    ∃ shortest ∈ ds, ∃ longest ∈ ds,
      (∀ d ∈ ds, shortest.total ≤ d.total ∧ d.total ≤ longest.total) ∧
      shortest.total ≤ meanNanos ds ∧ meanNanos ds ≤ longest.total := by
  obtain ⟨shortest, hs, longest, hl, between⟩ := exists_extremes h
  refine ⟨shortest, hs, longest, hl, between, ?_, ?_⟩
  · have pos : 0 < ds.length := List.length_pos_iff.2 h
    have low := le_sumNanos fun d hd => (between d hd).1
    exact (Nat.le_div_iff_mul_le pos).2 (by rwa [Nat.mul_comm])
  · exact Nat.div_le_of_le_mul (sumNanos_le fun d hd => (between d hd).2)

/-! ### Seconds and nanoseconds -/

/-- A second that the nanoseconds of two durations make up is carried over. -/
theorem parts_add {a b sum : Duration} (h : a.add b = .ok sum) :
    sum.secs = a.secs + b.secs + (a.nanos + b.nanos) / nanosPerSecond ∧
      sum.nanos = (a.nanos + b.nanos) % nanosPerSecond := by
  have total : sum.total = a.total + b.total := by
    unfold add ofNanos? at h
    split at h
    case h_1 found =>
      obtain ⟨_, made⟩ := Option.dite_none_right_eq_some.1 found
      rw [← Except.ok.inj h, ← Option.some.inj made]
    case h_2 => cases h
  unfold secs nanos nanosPerSecond
  omega

/-- Seconds and nanoseconds are shared each on their own, and then what is left of both. -/
theorem parts_share (d : Duration) {n : Nat} (h : n ≠ 0) :
    (d.share n).secs = d.secs / n ∧
      (d.share n).nanos =
        d.nanos / n + (d.secs % n * nanosPerSecond + d.nanos % n) / n := by
  have pos : 0 < n := Nat.pos_of_ne_zero h
  have total : (d.share n).total = d.total / n := by
    rw [share, if_neg h]
  have parts : d.total = d.secs * nanosPerSecond + d.nanos := by
    unfold secs nanos
    rw [Nat.div_add_mod']
  have below : d.nanos < nanosPerSecond := Nat.mod_lt _ (by decide)
  -- what is left of the seconds goes on as nanoseconds, with what is left of these
  have left : d.nanos / n + (d.secs % n * nanosPerSecond + d.nanos % n) / n =
      (d.secs % n * nanosPerSecond + d.nanos) / n := by
    rw [← Nat.mul_add_div pos, ← Nat.add_left_comm, Nat.div_add_mod]
  have small : (d.secs % n * nanosPerSecond + d.nanos) / n < nanosPerSecond := by
    rw [Nat.div_lt_iff_lt_mul pos]
    have remainder : d.secs % n + 1 ≤ n := Nat.mod_lt _ pos
    calc d.secs % n * nanosPerSecond + d.nanos
        < (d.secs % n + 1) * nanosPerSecond := by rw [Nat.add_mul]; omega
      _ ≤ nanosPerSecond * n := by rw [Nat.mul_comm]; exact Nat.mul_le_mul_left _ remainder
  have quotient : d.total / n = d.secs / n * nanosPerSecond +
      (d.secs % n * nanosPerSecond + d.nanos) / n := by
    rw [parts, ← Nat.mul_add_div pos, ← Nat.add_assoc, ← Nat.mul_assoc, ← Nat.add_mul,
      Nat.div_add_mod]
  rw [left, secs, nanos, total, quotient]
  constructor
  · rw [Nat.mul_comm, Nat.mul_add_div (by decide), Nat.div_eq_of_lt small, Nat.add_zero]
  · rw [Nat.mul_add_mod_self_right, Nat.mod_eq_of_lt small]

end Duration

/-! ## What attempts count as -/

namespace Attempt

/-- The time of a success. -/
def time? : Attempt → Option Duration
  | answered time => some time
  | _ => none

/-- Whether the attempt counts as a timeout. -/
def isUnanswered : Attempt → Bool
  | unanswered _ => true
  | _ => false

/-- The error of an attempt that counts as one. -/
def error? : Attempt → Option ProbeError
  | failed e => some e
  | _ => none

/-- The attempt counts as a success of a time, as a timeout or as an error. -/
structure CountsAs (a : Attempt) (time : Option Duration) (timeout : Bool)
    (error : Option ProbeError) : Prop where
  time : a.time? = time
  timeout : a.isUnanswered = timeout
  error : a.error? = error

/-- The attempt without the time of a timeout. -/
def timeless : Attempt → Attempt
  | unanswered _ => unanswered .zero
  | a => a

/-- Each attempt counts as a success, as a timeout or as an error. -/
theorem length_eq_counts (as : List Attempt) :
    as.length = (as.filterMap time?).length + as.countP isUnanswered +
      (as.filterMap error?).length := by
  induction as with
  | nil => rfl
  | cons a as ih =>
    cases a <;> simp only [List.length_cons, List.filterMap_cons, List.countP_cons, time?,
      isUnanswered, error?, ih] <;> simp <;> omega

/-- Some attempt is a success exactly if there is a time of one. -/
theorem exists_time?_iff {as : List Attempt} :
    (∃ a ∈ as, a.time?.isSome = true) ↔ as.filterMap time? ≠ [] := by
  rw [← List.length_pos_iff, List.length_pos_iff_exists_mem]
  simp only [List.mem_filterMap, Option.isSome_iff_exists]
  exact ⟨fun ⟨a, ha, d, hd⟩ => ⟨d, a, ha, hd⟩, fun ⟨d, a, ha, hd⟩ => ⟨a, ha, d, hd⟩⟩

end Attempt

open Attempt Duration

/-! ## Counting -/

namespace Tally

/-- The counts `t'` are the counts `t` with further attempts. -/
structure Counts (t : Tally) (as : List Attempt) (t' : Tally) : Prop where
  attempts : t'.attempts = t.attempts + as.length
  successes : t'.successes = t.successes + (as.filterMap time?).length
  timeouts : t'.timeouts = t.timeouts + as.countP isUnanswered
  errors : t'.errors = t.errors + (as.filterMap error?).length
  successTime : t'.successTime.total = t.successTime.total + sumNanos (as.filterMap time?)
  lastError : t'.lastError = (as.filterMap error?).getLast?.or t.lastError

theorem Counts.nil (t : Tally) : t.Counts [] t :=
  ⟨rfl, rfl, rfl, rfl, rfl, rfl⟩

theorem Counts.append {t t' t'' : Tally} {as bs : List Attempt} (h : t.Counts as t')
    (h' : t'.Counts bs t'') : t.Counts (as ++ bs) t'' where
  attempts := by rw [h'.attempts, h.attempts, List.length_append, Nat.add_assoc]
  successes := by
    rw [h'.successes, h.successes, List.filterMap_append, List.length_append, Nat.add_assoc]
  timeouts := by rw [h'.timeouts, h.timeouts, List.countP_append, Nat.add_assoc]
  errors := by rw [h'.errors, h.errors, List.filterMap_append, List.length_append, Nat.add_assoc]
  successTime := by
    rw [h'.successTime, h.successTime, List.filterMap_append, sumNanos_append, Nat.add_assoc]
  lastError := by
    rw [h'.lastError, h.lastError, List.filterMap_append, List.getLast?_append, Option.or_assoc]

theorem attempts_of_record {t t' : Tally} {a : Attempt} (h : t.record a = .ok t') :
    t'.attempts = t.attempts + 1 := by
  unfold record at h
  split at h
  case isTrue => cases h
  case isFalse =>
    cases a with
    | answered time =>
      dsimp only at h
      split at h
      case h_1 => rw [← Except.ok.inj h]
      case h_2 => cases h
    | unanswered time => rw [← Except.ok.inj h]
    | failed e => rw [← Except.ok.inj h]

/-- One more attempt is counted, unless the time of the successes becomes too long. -/
theorem record_cases (t : Tally) (a : Attempt) (few : t.attempts + 1 < attemptLimit) :
    (t.successTime.total + sumNanos ([a].filterMap time?) < Duration.limit ∧
      ∃ t', t.record a = .ok t' ∧ t.Counts [a] t') ∨
    (Duration.limit ≤ t.successTime.total + sumNanos ([a].filterMap time?) ∧
      t.record a = .error .durationOverflow) := by
  have room : ¬ t.attempts + 1 ≥ attemptLimit := by omega
  have fits := t.successTime.total_lt
  unfold record
  rw [if_neg room]
  cases a with
  | answered time =>
    have sum : sumNanos ([answered time].filterMap time?) = time.total := Nat.add_zero _
    rw [sum]
    by_cases long : t.successTime.total + time.total < Duration.limit
    · left
      have added : t.successTime.add time = .ok ⟨t.successTime.total + time.total, long⟩ := by
        unfold Duration.add Duration.ofNanos?
        rw [dif_pos long]
      simp only [added]
      exact ⟨long, _, rfl, ⟨rfl, rfl, rfl, rfl, congrArg _ sum.symm, rfl⟩⟩
    · right
      have refused : t.successTime.add time = .error .durationOverflow := by
        unfold Duration.add Duration.ofNanos?
        rw [dif_neg long]
      refine ⟨Nat.le_of_not_lt long, ?_⟩
      simp only [refused]
  | unanswered time => exact .inl ⟨fits, _, rfl, ⟨rfl, rfl, rfl, rfl, rfl, rfl⟩⟩
  | failed e => exact .inl ⟨fits, _, rfl, ⟨rfl, rfl, rfl, rfl, rfl, rfl⟩⟩

/-- Attempts are counted one after another, unless the time of the successes becomes too long. -/
theorem foldlM_record (t : Tally) (as : List Attempt)
    (few : t.attempts + as.length < attemptLimit) :
    (t.successTime.total + sumNanos (as.filterMap time?) < Duration.limit ∧
      ∃ t', as.foldlM record t = .ok t' ∧ t.Counts as t') ∨
    (Duration.limit ≤ t.successTime.total + sumNanos (as.filterMap time?) ∧
      as.foldlM record t = .error .durationOverflow) := by
  induction as generalizing t with
  | nil => exact .inl ⟨t.successTime.total_lt, t, rfl, .nil t⟩
  | cons a as ih =>
    rw [List.length_cons] at few
    have split : sumNanos ((a :: as).filterMap time?) =
        sumNanos ([a].filterMap time?) + sumNanos (as.filterMap time?) := by
      rw [← sumNanos_append, ← List.filterMap_append, List.singleton_append]
    rw [split, List.foldlM_cons]
    rcases t.record_cases a (by omega) with ⟨-, t', recorded, counts⟩ | ⟨long, recorded⟩
    · rw [recorded]
      have attempts : t'.attempts = t.attempts + 1 := counts.attempts
      have time := counts.successTime
      rcases ih t' (by omega) with ⟨fits, t'', folded, counts'⟩ | ⟨long, folded⟩
      · exact .inl ⟨by omega, t'', folded, counts.append counts'⟩
      · exact .inr ⟨by omega, folded⟩
    · -- what follows only adds to the time
      rw [recorded]
      exact .inr ⟨by omega, rfl⟩

end Tally

/-! ## Summing up -/

namespace AttemptSummary

/-- What a summary says of things that count as attempts, some with the time of a success, some as
timeouts and some with an error: their numbers, which add up; the mean time of the successes; and
the last error. -/
structure Reports {α : Type} (s : AttemptSummary) (time? : α → Option Duration)
    (isTimeout : α → Bool) (error? : α → Option ProbeError) (made : List α) : Prop where
  success : s.success = true ↔ ∃ a ∈ made, (time? a).isSome = true
  attempts : s.attempts.toNat = made.length
  successes : s.successfulAttempts.toNat = (made.filterMap time?).length
  timeouts : s.timeouts.toNat = made.countP isTimeout
  errors : s.errors.toNat = (made.filterMap error?).length
  attempts_eq : s.attempts.toNat =
    s.successfulAttempts.toNat + s.timeouts.toNat + s.errors.toNat
  average : s.averageDuration.total = meanNanos (made.filterMap time?)
  lastError : s.lastError = (made.filterMap error?).getLast?

/-- What is to be said of attempts. -/
abbrev IsOf (s : AttemptSummary) (as : List Attempt) : Prop :=
  s.Reports Attempt.time? Attempt.isUnanswered Attempt.error? as

section Reports

variable {α : Type} {s : AttemptSummary} {time? : α → Option Duration} {isTimeout : α → Bool}
  {error? : α → Option ProbeError} {made : List α}

/-- The same can be said of what was made into attempts, if it counts as these. -/
theorem Reports.of_map {attempt : α → Attempt} (h : s.IsOf (made.map attempt))
    (counts : ∀ a, (attempt a).CountsAs (time? a) (isTimeout a) (error? a)) :
    s.Reports time? isTimeout error? made := by
  have times : (made.map attempt).filterMap Attempt.time? = made.filterMap time? := by
    rw [List.filterMap_map]
    exact List.filterMap_congr fun a _ => (counts a).time
  have errors : (made.map attempt).filterMap Attempt.error? = made.filterMap error? := by
    rw [List.filterMap_map]
    exact List.filterMap_congr fun a _ => (counts a).error
  have timeouts : (made.map attempt).countP Attempt.isUnanswered = made.countP isTimeout := by
    rw [List.countP_map]
    exact List.countP_congr fun a _ => by rw [Function.comp_apply, (counts a).timeout]
  constructor
  case success =>
    rw [h.success]
    simp only [List.mem_map, exists_exists_and_eq_and, (counts _).time]
  case attempts => rw [h.attempts, List.length_map]
  case successes => rw [h.successes, times]
  case timeouts => rw [h.timeouts, timeouts]
  case errors => rw [h.errors, errors]
  case attempts_eq => exact h.attempts_eq
  case average => rw [h.average, times]
  case lastError => rw [h.lastError, errors]

/-- The last error is none that nothing counts as. -/
theorem Reports.lastError_ne {e : ProbeError} (h : s.Reports time? isTimeout error? made)
    (never : ∀ a ∈ made, error? a ≠ some e) : s.lastError ≠ some e := by
  rw [h.lastError]
  intro last
  obtain ⟨a, inside, error⟩ := List.mem_filterMap.1 (List.mem_of_getLast? last)
  exact never a inside error

end Reports

/-- Nothing else can be said of the same attempts. -/
theorem IsOf.eq {s s' : AttemptSummary} {as : List Attempt} (h : s.IsOf as) (h' : s'.IsOf as) :
    s = s' := by
  have success : s.success = s'.success := Bool.eq_iff_iff.2 (h.success.trans h'.success.symm)
  have attempts := UInt32.toNat_inj.1 (h.attempts.trans h'.attempts.symm)
  have successes := UInt32.toNat_inj.1 (h.successes.trans h'.successes.symm)
  have timeouts := UInt32.toNat_inj.1 (h.timeouts.trans h'.timeouts.symm)
  have errors := UInt32.toNat_inj.1 (h.errors.trans h'.errors.symm)
  have average := Duration.ext (h.average.trans h'.average.symm)
  have lastError := h.lastError.trans h'.lastError.symm
  cases s
  cases s'
  rw [AttemptSummary.mk.injEq]
  exact ⟨success, attempts, successes, timeouts, errors, average, lastError⟩

/-- In another order only the last error may be another. -/
theorem IsOf.perm {s : AttemptSummary} {as bs : List Attempt} (h : s.IsOf as) (hp : as.Perm bs) :
    { s with lastError := (bs.filterMap error?).getLast? }.IsOf bs where
  success := h.success.trans (by simp only [hp.mem_iff])
  attempts := h.attempts.trans hp.length_eq
  successes := h.successes.trans (hp.filterMap time?).length_eq
  timeouts := h.timeouts.trans (hp.countP_eq _)
  errors := h.errors.trans (hp.filterMap error?).length_eq
  attempts_eq := h.attempts_eq
  average := by
    rw [h.average, meanNanos, meanNanos, sumNanos_perm (hp.filterMap time?),
      (hp.filterMap time?).length_eq]
  lastError := rfl

/-- The summary of counted attempts. -/
theorem isOf_summary {t : Tally} {as : List Attempt} (few : as.length < attemptLimit)
    (h : ({} : Tally).Counts as t) : t.summary.IsOf as := by
  have all := length_eq_counts as
  have attempts : t.attempts = as.length := by rw [h.attempts, Nat.zero_add]
  have successes : t.successes = (as.filterMap time?).length := by
    rw [h.successes, Nat.zero_add]
  have timeouts : t.timeouts = as.countP isUnanswered := by rw [h.timeouts, Nat.zero_add]
  have errors : t.errors = (as.filterMap error?).length := by rw [h.errors, Nat.zero_add]
  have time : t.successTime.total = sumNanos (as.filterMap time?) := by
    rw [h.successTime]
    exact Nat.zero_add _
  -- no count is larger than the number of attempts, so none of them is cut off
  have exact {n : Nat} (small : n ≤ as.length) : (UInt32.ofNat n).toNat = n :=
    UInt32.toNat_ofNat_of_lt' (Nat.lt_of_le_of_lt small few)
  have attempts' : t.summary.attempts.toNat = as.length := (exact (by omega)).trans attempts
  have successes' : t.summary.successfulAttempts.toNat = (as.filterMap time?).length :=
    (exact (by omega)).trans successes
  have timeouts' : t.summary.timeouts.toNat = as.countP isUnanswered :=
    (exact (by omega)).trans timeouts
  have errors' : t.summary.errors.toNat = (as.filterMap error?).length :=
    (exact (by omega)).trans errors
  refine ⟨?_, attempts', successes', timeouts', errors', ?_, ?_, ?_⟩
  · show decide (0 < t.successes) = true ↔ _
    rw [decide_eq_true_iff, successes, List.length_pos_iff, exists_time?_iff]
  · rw [attempts', successes', timeouts', errors', all]
  · show (t.successTime.share t.successes).total = _
    rw [meanNanos, ← time, ← successes]
    unfold Duration.share
    split
    case isTrue none =>
      rw [none, Nat.div_zero]
      rfl
    case isFalse => rfl
  · show t.lastError = _
    rw [h.lastError, Option.or_none]

/-- As many attempts as are allowed, timed by a clock that shows instants of the calendar, never
take too long together; so what was made into attempts is counted as what it counts as. -/
theorem exists_tally_of_spans {α : Type} {made : List α} {attempt : α → Attempt}
    {time? : α → Option Duration} {isTimeout : α → Bool} {error? : α → Option ProbeError}
    (few : made.length ≤ maxAttempts)
    (counts : ∀ a, (attempt a).CountsAs (time? a) (isTimeout a) (error? a))
    (spans : ∀ a ∈ made, ∀ d, time? a = some d → d.total < Instant.longestSpan) :
    ∃ t, (made.map attempt).foldlM Tally.record {} = .ok t ∧
      t.summary.Reports time? isTimeout error? made := by
  have few' : (made.map attempt).length ≤ maxAttempts := by rwa [List.length_map]
  have few'' : (made.map attempt).length < attemptLimit := Nat.lt_of_le_of_lt few' (by decide)
  have successes : ((made.map attempt).filterMap Attempt.time?).length ≤ maxAttempts :=
    Nat.le_trans (List.length_filterMap_le _ _) few'
  have short : ∀ d ∈ (made.map attempt).filterMap Attempt.time?,
      d.total ≤ Instant.longestSpan := by
    intro d success
    rw [List.filterMap_map, List.mem_filterMap] at success
    obtain ⟨a, inside, timed⟩ := success
    rw [Function.comp_apply, (counts a).time] at timed
    exact Nat.le_of_lt (spans a inside d timed)
  have fits : sumNanos ((made.map attempt).filterMap Attempt.time?) < Duration.limit := by
    calc sumNanos ((made.map attempt).filterMap Attempt.time?)
        ≤ ((made.map attempt).filterMap Attempt.time?).length * Instant.longestSpan :=
          sumNanos_le short
      _ ≤ maxAttempts * Instant.longestSpan := Nat.mul_le_mul_right _ successes
      _ < Duration.limit := by decide
  have start : ({} : Tally).successTime.total +
      sumNanos ((made.map attempt).filterMap Attempt.time?) =
        sumNanos ((made.map attempt).filterMap Attempt.time?) := Nat.zero_add _
  rcases Tally.foldlM_record {} (made.map attempt) (by rwa [Nat.zero_add]) with
    ⟨-, t, folded, counted⟩ | ⟨long, -⟩
  · exact ⟨t, folded, (isOf_summary few'' counted).of_map counts⟩
  · omega

/-- Attempts have a summary, unless the successes took too long together. -/
theorem ofAttempts_cases (as : List Attempt) (few : as.length < attemptLimit) :
    (sumNanos (as.filterMap time?) < Duration.limit ∧ ∃ s, ofAttempts as = .ok s ∧ s.IsOf as) ∨
    (Duration.limit ≤ sumNanos (as.filterMap time?) ∧
      ofAttempts as = .error .durationOverflow) := by
  have start : ({} : Tally).successTime.total + sumNanos (as.filterMap time?) =
      sumNanos (as.filterMap time?) := Nat.zero_add _
  have few' : ({} : Tally).attempts + as.length < attemptLimit := by rwa [Nat.zero_add]
  rcases Tally.foldlM_record {} as few' with ⟨fits, t, folded, counts⟩ | ⟨long, folded⟩
  · refine .inl ⟨by rwa [start] at fits, t.summary, ?_, isOf_summary few counts⟩
    rw [ofAttempts, folded]
    rfl
  · refine .inr ⟨by rwa [start] at long, ?_⟩
    rw [ofAttempts, folded]
    rfl

theorem ofAttempts_perm {as bs : List Attempt} (few : as.length < attemptLimit)
    (hp : as.Perm bs) : ofAttempts bs =
      (ofAttempts as).map fun s => { s with lastError := (bs.filterMap error?).getLast? } := by
  have same := sumNanos_perm (hp.filterMap time?)
  have few' : bs.length < attemptLimit := by rwa [← hp.length_eq]
  rcases ofAttempts_cases as few with ⟨fits, s, summed, isOf⟩ | ⟨long, failed⟩
  · rcases ofAttempts_cases bs few' with ⟨-, s', summed', isOf'⟩ | ⟨long, -⟩
    · rw [summed, summed', isOf'.eq (isOf.perm hp)]
      rfl
    · omega
  · rcases ofAttempts_cases bs few' with ⟨fits, -⟩ | ⟨-, failed'⟩
    · omega
    · rw [failed, failed']
      rfl

/-- Counting does not look at the time of a timeout. -/
theorem ofAttempts_timeless (as : List Attempt) : ofAttempts (as.map timeless) = ofAttempts as := by
  have record (t : Tally) (a : Attempt) : t.record a.timeless = t.record a := by
    cases a <;> rfl
  rw [ofAttempts, List.foldlM_map]
  simp only [record]
  rfl

/-- **What a summary says.**  Attempts, of which there are not too many to be counted, cannot be
summed up exactly if the successes took too long together.  Otherwise all attempts are counted, each
as a success, as a timeout or as an error; there is a success exactly if some attempt is one; the
mean is that of the successes, and lies between the shortest and the longest of them; and the last
error is known.  In another order only the last error may be another, and the time of a timeout
never counts. -/
theorem summary_of_attempts (as : List Attempt) (few : as.length < attemptLimit) :
    (∀ fault, ofAttempts as = .error fault ↔
      fault = .durationOverflow ∧ Duration.limit ≤ sumNanos (as.filterMap time?)) ∧
    (sumNanos (as.filterMap time?) < Duration.limit → ∃ s, ofAttempts as = .ok s ∧ s.IsOf as ∧
      (s.success = true → ∃ shortest ∈ as.filterMap time?, ∃ longest ∈ as.filterMap time?,
        (∀ d ∈ as.filterMap time?, shortest.total ≤ d.total ∧ d.total ≤ longest.total) ∧
        shortest.total ≤ s.averageDuration.total ∧ s.averageDuration.total ≤ longest.total) ∧
      (s.success = false → s.averageDuration = .zero)) ∧
    (∀ bs, as.Perm bs → ofAttempts bs =
      (ofAttempts as).map fun s => { s with lastError := (bs.filterMap error?).getLast? }) ∧
    ∀ bs, bs.map timeless = as.map timeless → ofAttempts bs = ofAttempts as := by
  refine ⟨?_, ?_, fun bs hp => ofAttempts_perm few hp, ?_⟩
  · intro fault
    rcases ofAttempts_cases as few with ⟨fits, s, summed, -⟩ | ⟨long, failed⟩
    · rw [summed]
      constructor
      · intro h
        cases h
      · intro h
        omega
    · rw [failed]
      constructor
      · intro h
        exact ⟨(Except.error.inj h).symm, long⟩
      · rintro ⟨rfl, -⟩
        rfl
  · intro fits
    rcases ofAttempts_cases as few with ⟨-, s, summed, isOf⟩ | ⟨long, -⟩
    · have some_iff := isOf.success.trans exists_time?_iff
      refine ⟨s, summed, isOf, ?_, ?_⟩
      · intro success
        rw [isOf.average]
        exact meanNanos_between (some_iff.1 success)
      · intro failure
        have none_mem : as.filterMap time? = [] := by
          by_contra h
          rw [some_iff.2 h] at failure
          cases failure
        apply Duration.ext
        rw [isOf.average, none_mem]
        rfl
    · omega
  · intro bs same
    rw [← ofAttempts_timeless bs, same, ofAttempts_timeless]

/-- Successes of very different lengths, with a timeout and an error between them. -/
def unevenAttempts : List Attempt :=
  [.answered (.ofSecs 1), .unanswered (.ofSecs 9), .failed .connectionRefused,
    .answered (.ofNanos 1), .answered (.ofNanos 3)]

/-- A mean that is rounded down, the same in reverse, and a nanosecond that is too much. -/
theorem summary_of_uneven_attempts :
    (∃ s, ofAttempts unevenAttempts = .ok s ∧ s.IsOf unevenAttempts ∧
      s.averageDuration.total = 333333334 ∧ s.lastError = some .connectionRefused ∧
      ofAttempts unevenAttempts.reverse = .ok s) ∧
    ofAttempts [.answered (.ofNanos Duration.limit), .answered (.ofNanos 1)] =
      .error .durationOverflow := by
  have few : unevenAttempts.length < attemptLimit := by decide
  obtain ⟨-, sums, orders, -⟩ := summary_of_attempts unevenAttempts few
  obtain ⟨s, summed, isOf, -⟩ := sums (by decide)
  refine ⟨⟨s, summed, isOf, isOf.average.trans (by decide), isOf.lastError.trans rfl, ?_⟩, ?_⟩
  · have reversed := orders unevenAttempts.reverse (List.reverse_perm unevenAttempts).symm
    rw [reversed, summed]
    have same : s.lastError = (unevenAttempts.reverse.filterMap error?).getLast? :=
      isOf.lastError.trans rfl
    rw [← same]
    rfl
  · have faults := (summary_of_attempts
      [.answered (.ofNanos Duration.limit), .answered (.ofNanos 1)] (by decide)).1
    exact (faults .durationOverflow).2 ⟨rfl, by decide⟩

end AttemptSummary
end Reachability
