/-
# The course of a connect probe

A probe makes all its attempts, whatever comes of them.  An attempt may end without an endpoint to
connect to, and then the clock is not read; or a connection is opened, which may fail, take too long
or never end.  Here the attempts are numbered, each with the clock and the connector before it, and
the summary of the probe is told from them.

Main definitions:

* `Opening.expires`, `Opening.failure?` : how an opening may go wrong;
* `Trial` : one attempt, with what it counts as;
* `trial`, `before`, `course` : the attempts of a probe and what they find.

Main results:

* `course_succ`, `before_succ`, `attempts_eq` : the probe makes the attempts of its course, one
  after another;
* `exists_attempts` : they can be counted;
* `summary_reports_course` : the summary of a probe.
-/
import Reachability.Connect.Probe
import Reachability.Proofs.Config.Rules
import Reachability.Proofs.Probe.Attempts

namespace Reachability.Connect

/-! ## What attempts count as -/

namespace Opening

/-- Whether the wait for the opening expires: it does not end, or not within the timeout. -/
def expires (timeout : Duration) : Opening → Bool
  | ends after _ => decide (timeout.total < after.total)
  | hangs => true

/-- The failure with which the opening ends. -/
def failure? : Opening → Option SystemFailure
  | ends _ (.error failure) => some failure
  | _ => none

end Opening

/-- The wait for an opening expires, or a connection is opened, or the opening fails. -/
theorem attemptOf_cases (timeout : Duration) (opening : Opening) (span : Duration) :
    (opening.expires timeout = true ∧ attemptOf timeout opening span = .unanswered span) ∨
    (opening.expires timeout = false ∧ opening.failure? = none ∧
      attemptOf timeout opening span = .answered span) ∨
    (opening.expires timeout = false ∧ ∃ failure, opening.failure? = some failure ∧
      attemptOf timeout opening span =
        if failure.kind = .timedOut then .unanswered span else .failed (.ofFailure failure)) := by
  cases opening with
  | hangs => exact .inl ⟨rfl, rfl⟩
  | ends after result =>
    by_cases late : timeout.total < after.total
    · exact .inl ⟨decide_eq_true late, if_pos late⟩
    · right
      cases result with
      | ok u => exact .inl ⟨decide_eq_false late, rfl, if_neg late⟩
      | error failure => exact .inr ⟨decide_eq_false late, failure, rfl, if_neg late⟩

/-- One attempt: there is no endpoint, or a connection is opened within a span of the clock. -/
inductive Trial
  | unresolved (e : ProbeError)
  | opened (opening : Opening) (span : Duration)

namespace Trial

/-- The time of a connection that was opened. -/
def time? (timeout : Duration) : Trial → Option Duration
  | unresolved _ => none
  | opened opening span =>
      if opening.expires timeout || opening.failure?.isSome then none else some span

/-- Whether the wait expired or the system reported a timeout. -/
def isTimeout (timeout : Duration) : Trial → Bool
  | unresolved _ => false
  | opened opening _ =>
      opening.expires timeout || opening.failure?.any fun failure => failure.kind = .timedOut

/-- Why there was no endpoint, or the failure that the system reported otherwise. -/
def error? (timeout : Duration) : Trial → Option ProbeError
  | unresolved e => some e
  | opened opening _ =>
      if opening.expires timeout then none
      else opening.failure?.bind fun failure =>
        if failure.kind = .timedOut then none else some (.ofFailure failure)

/-- The attempt as which the trial is counted. -/
def attempt (timeout : Duration) : Trial → Attempt
  | unresolved e => .failed e
  | opened opening span => attemptOf timeout opening span

variable {timeout : Duration}

theorem countsAs_attempt (t : Trial) :
    (t.attempt timeout).CountsAs (t.time? timeout) (t.isTimeout timeout) (t.error? timeout) := by
  cases t with
  | unresolved e => exact ⟨rfl, rfl, rfl⟩
  | opened opening span =>
    rw [attempt, time?, isTimeout, error?]
    rcases attemptOf_cases timeout opening span with
      ⟨late, counted⟩ | ⟨soon, well, counted⟩ | ⟨soon, failure, failed, counted⟩
    · rw [counted, late]
      exact ⟨rfl, rfl, rfl⟩
    · rw [counted, soon, well]
      exact ⟨rfl, rfl, rfl⟩
    · rw [counted, soon, failed]
      by_cases timedOut : failure.kind = .timedOut
      · rw [if_pos timedOut]
        exact ⟨rfl, (decide_eq_true timedOut).symm, (if_pos timedOut).symm⟩
      · rw [if_neg timedOut]
        exact ⟨rfl, (decide_eq_false timedOut).symm, (if_neg timedOut).symm⟩

theorem span_of_time? {opening : Opening} {span d : Duration}
    (h : (opened opening span).time? timeout = some d) : d = span := by
  rw [time?] at h
  split at h
  case isTrue => cases h
  case isFalse => exact (Option.some.inj h).symm

end Trial

/-! ## Timeouts are no errors -/

/-- Only a timeout that the system reports becomes a timeout. -/
theorem ofFailure_ne_timeout {failure : SystemFailure} (h : failure.kind ≠ .timedOut) :
    ProbeError.ofFailure failure ≠ .timeout := by
  unfold ProbeError.ofFailure
  split
  case h_2 timedOut => exact absurd timedOut h
  all_goals simp

theorem ne_timeout_of_resolve {lookup : NameLookup} {address : String} {port : UInt16}
    {e : ProbeError} (h : resolve lookup address port = .error e) : e ≠ .timeout := by
  unfold resolve at h
  dsimp only at h
  split at h
  case isTrue =>
    rw [← Except.error.inj h]
    simp
  case isFalse =>
    split at h
    case h_1 => cases h
    case h_2 =>
      split at h
      case h_3 => cases h
      all_goals
        rw [← Except.error.inj h]
        simp

/-! ## Which attempts are made -/

section Course

variable {σ : Type} (lookupAt : Nat → NameLookup) (connect : Connector σ) (timeout : Duration)
  (address : String) (port : UInt16)

/-- One attempt, and the clock and the connector behind it: the clock was read twice if there is an
endpoint. -/
def trial (lookup : NameLookup) (s : Clock × σ) : Trial × Clock × σ :=
  match resolve lookup address port with
  | .error e => (.unresolved e, s)
  | .ok endpoint =>
      (.opened (connect endpoint s.2).1 (s.1.span 0), s.1.after 2, (connect endpoint s.2).2)

/-- The clock and the connector when so many attempts were made. -/
def before (s : Clock × σ) : Nat → Clock × σ
  | 0 => s
  | n + 1 => (trial connect address port (lookupAt n) (before s n)).2

/-- The attempts that are made. -/
def course (attempts : Nat) (s : Clock × σ) : List Trial :=
  (List.range attempts).map fun i =>
    (trial connect address port (lookupAt i) (before lookupAt connect address port s i)).1

theorem length_course (attempts : Nat) (s : Clock × σ) :
    (course lookupAt connect address port attempts s).length = attempts := by
  rw [course, List.length_map, List.length_range]

theorem before_succ (s : Clock × σ) (n : Nat) :
    before lookupAt connect address port s (n + 1) =
      before (fun i => lookupAt (i + 1)) connect address port
        (trial connect address port (lookupAt 0) s).2 n := by
  induction n with
  | zero => rfl
  | succ n ih => rw [before, ih, before]

theorem course_succ (attempts : Nat) (s : Clock × σ) :
    course lookupAt connect address port (attempts + 1) s =
      (trial connect address port (lookupAt 0) s).1 ::
        course (fun i => lookupAt (i + 1)) connect address port attempts
          (trial connect address port (lookupAt 0) s).2 := by
  rw [course, List.range_succ_eq_map, List.map_cons, List.map_map, course]
  simp only [Function.comp_def, Nat.succ_eq_add_one, before_succ]
  rfl

/-- The clock shows instants of the calendar only, after any number of attempts. -/
theorem inCalendar_before {s : Clock × σ} (h : s.1.InCalendar) (n : Nat) :
    (before lookupAt connect address port s n).1.InCalendar := by
  induction n with
  | zero => exact h
  | succ n ih =>
    rw [before, trial]
    split
    · exact ih
    · exact ih.after 2

/-- An attempt is counted as what it finds. -/
theorem attempt_eq (lookup : NameLookup) (p : Progress σ) :
    attempt lookup connect timeout address port p =
      ((trial connect address port lookup (p.clock, p.connector)).1.attempt timeout,
        (trial connect address port lookup (p.clock, p.connector)).2) := by
  unfold attempt trial
  cases resolve lookup address port with
  | error e => rfl
  | ok endpoint => rfl

/-- A probe makes the attempts of its course. -/
theorem attempts_eq (n : Nat) (p : Progress σ) :
    attempts lookupAt connect timeout address port n p =
      (((course (fun i => lookupAt (p.tally.attempts + i)) connect address port n
        (p.clock, p.connector)).map (Trial.attempt timeout)).foldlM Tally.record p.tally).map
        fun tally =>
          let s := before (fun i => lookupAt (p.tally.attempts + i)) connect address port
            (p.clock, p.connector) n
          { tally, clock := s.1, connector := s.2 } := by
  -- the look-ups are numbered by the tally, which counts one more in each step
  induction n generalizing p with
  | zero => rfl
  | succ n ih =>
    rw [attempts, attempt_eq, course_succ, before_succ, List.map_cons, List.foldlM_cons,
      Nat.add_zero]
    dsimp only
    generalize trial connect address port (lookupAt p.tally.attempts) (p.clock, p.connector) = made
    cases recorded : p.tally.record (made.1.attempt timeout) with
    | error fault => rfl
    | ok tally =>
      have one := Tally.attempts_of_record recorded
      show attempts lookupAt connect timeout address port n ⟨tally, made.2.1, made.2.2⟩ =
        Except.map _ (List.foldlM _ tally _)
      rw [ih]
      simp only [one, Nat.add_assoc, Nat.add_comm 1]

/-- The span of an attempt is one that the clock shows. -/
theorem total_lt_of_mem_course {attempts : Nat} {s : Clock × σ} (h : s.1.InCalendar) {t : Trial}
    (inside : t ∈ course lookupAt connect address port attempts s) {d : Duration}
    (time : t.time? timeout = some d) : d.total < Instant.longestSpan := by
  obtain ⟨i, -, rfl⟩ := List.mem_map.1 inside
  have clock := inCalendar_before lookupAt connect address port h i
  unfold trial at time
  split at time
  case h_1 => cases time
  case h_2 =>
    rw [Trial.span_of_time? time]
    exact Clock.total_span_lt clock 0

/-- A timeout is never the error of an attempt. -/
theorem error?_ne_timeout_of_mem_course {attempts : Nat} {s : Clock × σ} {t : Trial}
    (inside : t ∈ course lookupAt connect address port attempts s) :
    t.error? timeout ≠ some .timeout := by
  obtain ⟨i, -, rfl⟩ := List.mem_map.1 inside
  intro error
  unfold trial at error
  split at error
  case h_1 e unresolved => exact ne_timeout_of_resolve unresolved (Option.some.inj error)
  case h_2 =>
    rw [Trial.error?] at error
    split at error
    case isTrue => cases error
    case isFalse =>
      obtain ⟨failure, -, made⟩ := Option.bind_eq_some_iff.1 error
      split at made
      case isTrue => cases made
      case isFalse other => exact ofFailure_ne_timeout other (Option.some.inj made)

/-- As many attempts as are allowed are made and counted, and the summary reports them. -/
theorem exists_attempts {n : Nat} {s : Clock × σ} (few : n ≤ maxAttempts)
    (inCalendar : s.1.InCalendar) :
    ∃ p, attempts lookupAt connect timeout address port n ⟨{}, s.1, s.2⟩ = .ok p ∧
      (p.clock, p.connector) = before lookupAt connect address port s n ∧
      p.tally.summary.Reports (Trial.time? timeout) (Trial.isTimeout timeout)
        (Trial.error? timeout) (course lookupAt connect address port n s) := by
  have made := attempts_eq lookupAt connect timeout address port n ⟨{}, s.1, s.2⟩
  simp only [Nat.zero_add] at made
  have few' : (course lookupAt connect address port n s).length ≤ maxAttempts := by
    rwa [length_course]
  obtain ⟨tally, folded, counted⟩ := AttemptSummary.exists_tally_of_spans few'
    Trial.countsAs_attempt fun t inside d time =>
      total_lt_of_mem_course lookupAt connect timeout address port inCalendar inside time
  rw [folded] at made
  exact ⟨_, made, rfl, counted⟩

end Course

/-! ## The probe -/

/-- **The summary of a probe.**  At a port other than zero, with an allowed number of attempts and a
clock that shows instants of the calendar, all attempts are made, whatever the look-ups find and
however the openings go, and can be counted: as a timeout if the wait expired or the system reported
one, as an error if there was no endpoint or another failure, and else as a success.  The last error
is never a timeout.  At port zero nothing is looked up or connected to. -/
theorem summary_reports_course {σ : Type} (c : ConnectConfig) (lookupAt : Nat → NameLookup)
    (connect : Connector σ) (address : String) (clock : Clock) (connector : σ) :
    (∀ port, port ≠ 0 → Config.checkAttempts "connect.attempts" c.attempts = .ok () →
      clock.InCalendar → ∃ summary,
        probeWith c lookupAt connect address port clock connector =
          .ok (summary, before lookupAt connect address port (clock, connector)
            c.attempts.toNat) ∧
        summary.Reports (Trial.time? c.timeout) (Trial.isTimeout c.timeout)
          (Trial.error? c.timeout)
          (course lookupAt connect address port c.attempts.toNat (clock, connector)) ∧
        summary.attempts = c.attempts ∧ summary.lastError ≠ some .timeout) ∧
    ∃ summary, probeWith c lookupAt connect address 0 clock connector =
        .ok (summary, clock, connector) ∧
      summary.success = false ∧ summary.attempts = 0 ∧
      summary.lastError = some (.invalidTarget (address ++ ": port 0")) := by
  constructor
  · intro port nonzero allowed inCalendar
    have few := (Config.checkAttempts_eq_ok_iff.1 allowed).2
    obtain ⟨p, made, behind, reports⟩ :=
      exists_attempts lookupAt connect c.timeout address port (s := (clock, connector)) few
        inCalendar
    refine ⟨p.tally.summary, ?_, reports, ?_, ?_⟩
    · rw [probeWith, if_neg nonzero, ← behind]
      show (attempts lookupAt connect c.timeout address port c.attempts.toNat _ >>= _) = _
      rw [made]
      rfl
    · rw [← UInt32.toNat_inj, reports.attempts, length_course]
    · exact reports.lastError_ne fun t inside =>
        error?_ne_timeout_of_mem_course lookupAt connect c.timeout address port inside
  · exact ⟨_, rfl, rfl, rfl, rfl⟩

/-- A look-up that finds an address, but not the second time. -/
def forgetful (made : Nat) : NameLookup := fun _ =>
  if made = 1 then .error "gone" else .ok [.v4 ⟨127, 0, 0, 1⟩]

/-- What opens connections as it is prepared. -/
def prepared : Connector (List Opening) := fun _ openings =>
  (openings.headD .hangs, openings.tail)

/-- A connection that is opened just in time, one that is never opened, one that is opened too late,
one for which the system reports a timeout, and one that is refused. -/
def mixedOpenings : List Opening :=
  [.ends (.ofSecs 5) (.ok ()), .hangs, .ends (.ofNanos 5000000001) (.ok ()),
    .ends .zero (.error ⟨.timedOut, none⟩), .ends .zero (.error ⟨.connectionRefused, none⟩)]

theorem mixed_openings_reported :
    ∃ clock summary clock', Clock.ofOffsets default [0, 7, 9, 20] = .ok clock ∧
      probeWith { attempts := 6 } forgetful prepared "host" 80 clock mixedOpenings =
        .ok (summary, clock', []) ∧
      summary.attempts = 6 ∧ summary.successfulAttempts.toNat = 1 ∧
      summary.timeouts.toNat = 3 ∧ summary.errors.toNat = 2 ∧
      summary.averageDuration = .ofMillis 7 ∧ summary.lastError = some .connectionRefused := by
  have shifted : Clock.ofOffsets default [0, 7, 9, 20] = .ok (Clock.ofInstants
      ([0, 7, 9, 20].map fun ms => ⟨0, ms * 1000000⟩)) := by
    rfl
  have inCalendar := Clock.inCalendar_ofOffsets Instant.inCalendar_default shifted
  obtain ⟨summary, probed, reports, attempts, -⟩ :=
    (summary_reports_course { attempts := 6 } forgetful prepared "host" _ mixedOpenings).1 80
      (by decide) rfl inCalendar
  exact ⟨_, summary, _, shifted, probed, attempts, reports.successes, reports.timeouts,
    reports.errors, Duration.ext reports.average, reports.lastError⟩

end Reachability.Connect
