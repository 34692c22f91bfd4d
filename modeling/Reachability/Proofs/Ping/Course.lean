/-
# The course of a ping probe

A probe asks its executor again and again for the same command line.  Whatever the executor answers
and whatever the clock shows, the answers that are got and the spans around them are numbered here,
and the result of the probe is told from them: up to where the runs end, how each of them counts,
and which of them is looked at.

Main definitions:

* `Run` : one run of the command, with what it counts as;
* `stateAfter`, `answerAt` : the executor after some runs, and its answers by number;
* `runCount`, `course` : how many runs are made, and which;
* `Result.Reports` : a result that says of runs what is to be said.

Main results:

* `course_succ`, `runs_succ`, `runs_eq` : the probe makes the runs of its course, one after another;
* `reports_resultOf` : what is counted and kept of the runs is what the result has to say;
* `result_reports_course` : the result of a probe.
-/
import Reachability.Proofs.Config.Rules
import Reachability.Proofs.Ping.RawOutput
import Reachability.Proofs.Ping.Template
import Reachability.Proofs.Probe.Attempts

namespace Reachability.Ping

/-! ## What runs count as -/

/-- One run of the command: how it went, and the span of the clock around it. -/
structure Run where
  answer : Except ProbeError ProcessOutput
  span : Duration
deriving DecidableEq

namespace Run

/-- The time of a run that ended well. -/
def time? (r : Run) : Option Duration :=
  match r.answer with
  | .ok output => if output.exitCode = some 0 then some r.span else none
  | .error _ => none

/-- Whether the run ended otherwise, or took too long. -/
def isTimeout (r : Run) : Bool :=
  match r.answer with
  | .ok output => decide (output.exitCode ≠ some 0)
  | .error e => decide (e = .timeout)

/-- The error of a run that did not end, unless it took too long. -/
def error? (r : Run) : Option ProbeError :=
  match r.answer with
  | .ok _ => none
  | .error e => if e = .timeout then none else some e

/-- The attempt as which the run is counted. -/
def attempt (r : Run) : Attempt := attemptOf r.answer r.span

theorem attempt_of_ok {r : Run} {output : ProcessOutput} (h : r.answer = .ok output) :
    r.attempt =
      if output.exitCode = some 0 then .answered r.span else .unanswered r.span := by
  rw [attempt, h, attemptOf, ProcessOutput.isSuccess]
  simp only [beq_iff_eq]

theorem attempt_of_error {r : Run} {e : ProbeError} (h : r.answer = .error e) :
    r.attempt = if e = .timeout then .unanswered r.span else .failed e := by
  rw [attempt, h]
  cases e <;> rfl

theorem countsAs_attempt (r : Run) : r.attempt.CountsAs r.time? r.isTimeout r.error? := by
  cases h : r.answer with
  | ok output =>
    rw [attempt_of_ok h, time?, isTimeout, error?, h]
    by_cases well : output.exitCode = some 0
    · rw [if_pos well]
      exact ⟨(if_pos well).symm, (decide_eq_false (not_not_intro well)).symm, rfl⟩
    · rw [if_neg well]
      exact ⟨(if_neg well).symm, (decide_eq_true well).symm, rfl⟩
  | error e =>
    rw [attempt_of_error h, time?, isTimeout, error?, h]
    by_cases late : e = .timeout
    · rw [if_pos late]
      exact ⟨rfl, (decide_eq_true late).symm, (if_pos late).symm⟩
    · rw [if_neg late]
      exact ⟨rfl, (decide_eq_false late).symm, (if_neg late).symm⟩

/-- A timeout is never an error. -/
theorem error?_ne_timeout (r : Run) : r.error? ≠ some .timeout := by
  intro h
  unfold error? at h
  split at h
  case h_1 => cases h
  case h_2 =>
    split at h
    case isTrue => cases h
    case isFalse other => exact other (Option.some.inj h)

theorem span_of_time? {r : Run} {d : Duration} (h : r.time? = some d) : d = r.span := by
  unfold time? at h
  split at h
  case h_1 =>
    split at h
    case isTrue => exact (Option.some.inj h).symm
    case isFalse => cases h
  case h_2 => cases h

end Run

/-! ## Which runs are made -/

/-- How many runs are made: all, or up to the first one that shows that the command cannot be
started. -/
def runCount (answer : Nat → Except ProbeError ProcessOutput) (attempts : Nat) : Nat :=
  ((List.range attempts).find? fun i => endsProbe (answer i)).elim attempts (· + 1)

theorem runCount_succ (answer : Nat → Except ProbeError ProcessOutput) (attempts : Nat) :
    runCount answer (attempts + 1) =
      if endsProbe (answer 0) = true then 1
      else runCount (fun i => answer (i + 1)) attempts + 1 := by
  -- behind the first run the others are numbered anew
  rw [runCount, List.range_succ_eq_map, List.find?_cons, List.find?_map]
  cases endsProbe (answer 0) with
  | true => rfl
  | false =>
    show Option.elim (Option.map _ ((List.range attempts).find? fun i =>
      endsProbe (answer (i + 1)))) (attempts + 1) (· + 1) = runCount _ attempts + 1
    unfold runCount
    cases (List.range attempts).find? fun i => endsProbe (answer (i + 1)) <;> rfl

theorem runCount_le (answer : Nat → Except ProbeError ProcessOutput) (attempts : Nat) :
    runCount answer attempts ≤ attempts := by
  induction attempts generalizing answer with
  | zero => exact Nat.le_refl 0
  | succ attempts ih =>
    rw [runCount_succ]
    split
    · omega
    · exact Nat.succ_le_succ (ih _)

section Course

variable {σ : Type} (execute : Executor σ) (command : CommandLine) (limit : Duration)

/-- What the executor remembers when it was asked so many times for one command line. -/
def stateAfter (executor : σ) (n : Nat) : σ :=
  (fun s => (execute command limit s).2)^[n] executor

/-- What the executor answers when it was asked so many times before. -/
def answerAt (executor : σ) (n : Nat) : Except ProbeError ProcessOutput :=
  (execute command limit (stateAfter execute command limit executor n)).1

/-- The runs that are made, each within the span of the two readings around it. -/
def course (attempts : Nat) (clock : Clock) (executor : σ) : List Run :=
  (List.range (runCount (answerAt execute command limit executor) attempts)).map fun i =>
    ⟨answerAt execute command limit executor i, clock.span i⟩

theorem length_course (attempts : Nat) (clock : Clock) (executor : σ) :
    (course execute command limit attempts clock executor).length =
      runCount (answerAt execute command limit executor) attempts := by
  rw [course, List.length_map, List.length_range]

/-- The course begins with the run that is made first, and goes on unless that ends it. -/
theorem course_succ (attempts : Nat) (clock : Clock) (executor : σ) :
    course execute command limit (attempts + 1) clock executor =
      ⟨(execute command limit executor).1, clock.span 0⟩ ::
        if endsProbe (execute command limit executor).1 = true then []
        else course execute command limit attempts (clock.after 2)
          (execute command limit executor).2 := by
  have first : answerAt execute command limit executor 0 = (execute command limit executor).1 := rfl
  have behind (i : Nat) : answerAt execute command limit executor (i + 1) =
      answerAt execute command limit (execute command limit executor).2 i := rfl
  rw [course, runCount_succ, first]
  split
  · rfl
  · rw [List.range_succ_eq_map, List.map_cons, List.map_map, course]
    simp only [behind, ← Clock.span_after, Function.comp_def]
    rfl

/-- A probe makes one run, counts it, and goes on unless that ends it. -/
theorem runs_succ (attempts : Nat) (p : Progress σ) :
    runs execute command limit (attempts + 1) p =
      (p.tally.record (Run.attempt ⟨(execute command limit p.executor).1, p.clock.span 0⟩) >>=
        fun tally =>
          let next : Progress σ :=
            { tally
              lastOutput := (execute command limit p.executor).1.toOption.or p.lastOutput
              clock := p.clock.after 2
              executor := (execute command limit p.executor).2 }
          if endsProbe (execute command limit p.executor).1 = true then .ok next
          else runs execute command limit attempts next) := rfl

/-- A probe makes the runs of its course. -/
theorem runs_eq (attempts : Nat) (p : Progress σ) :
    runs execute command limit attempts p =
      (((course execute command limit attempts p.clock p.executor).map Run.attempt).foldlM
        Tally.record p.tally).map fun tally =>
          { tally
            lastOutput := (lastFinished ((course execute command limit attempts p.clock
              p.executor).map Run.answer)).or p.lastOutput
            clock := p.clock.after
              (2 * (course execute command limit attempts p.clock p.executor).length)
            executor := stateAfter execute command limit p.executor
              (course execute command limit attempts p.clock p.executor).length } := by
  -- the runs behind the first one are those of the probe that begins where it ended
  induction attempts generalizing p with
  | zero => rfl
  | succ attempts ih =>
    rw [runs_succ, course_succ, List.map_cons, List.map_cons, List.foldlM_cons, lastFinished_cons]
    cases p.tally.record _ with
    | error fault => rfl
    | ok tally =>
      show (if _ then _ else _) = Except.map _ (List.foldlM _ tally _)
      by_cases last : endsProbe (execute command limit p.executor).1 = true
      · rw [if_pos last, if_pos last]
        rfl
      · rw [if_neg last, if_neg last, ih]
        dsimp only
        generalize course execute command limit attempts (p.clock.after 2)
          (execute command limit p.executor).2 = rest
        rw [List.length_cons, Clock.after_after, Option.or_assoc, Nat.mul_add, Nat.add_comm 2]
        rfl

end Course

/-! ## What a result says -/

/-- The command line; what is to be said of runs that end well, that end otherwise or take too long,
and of the others; and of the last run that ended, what it wrote, how it ended and what it said. -/
structure Result.Reports (r : Result) (command : CommandLine) (made : List Run) : Prop where
  command : r.command = command.text
  aggregate : r.aggregate.Reports Run.time? Run.isTimeout Run.error? made
  output : r.output = (lastFinished (made.map Run.answer)).elim "" ProcessOutput.text
  exitCode : r.exitCode = (lastFinished (made.map Run.answer)).bind ProcessOutput.exitCode
  statistics : r.statistics = (lastFinished (made.map Run.answer)).elim .absent fun o =>
    Statistics.ofOutput o.text

/-- What is counted and kept of the runs is what the result has to say. -/
theorem reports_resultOf {σ : Type} (command : CommandLine) {made : List Run} {p : Progress σ}
    (counted : p.tally.summary.Reports Run.time? Run.isTimeout Run.error? made)
    (last : p.lastOutput = lastFinished (made.map Run.answer)) :
    (resultOf command p).Reports command made := by
  cases kept : p.lastOutput with
  | none =>
    have none_kept := last.symm.trans kept
    rw [resultOf, kept]
    refine ⟨rfl, counted, ?_, ?_, ?_⟩
    · rw [none_kept, Option.elim_none]
    · rw [none_kept, Option.bind_none]
    · rw [none_kept, Option.elim_none]
  | some output =>
    have output_kept := last.symm.trans kept
    rw [resultOf, kept]
    refine ⟨rfl, counted, ?_, ?_, ?_⟩
    · rw [output_kept, Option.elim_some]
    · rw [output_kept, Option.bind_some]
    · rw [output_kept, Option.elim_some]

/-! ## The probe -/

/-- As many runs as are allowed are made and counted, and the result reports them. -/
theorem exists_runs {σ : Type} (execute : Executor σ) (command : CommandLine) (limit : Duration)
    {attempts : Nat} {clock : Clock} (executor : σ) (few : attempts ≤ maxAttempts)
    (inCalendar : clock.InCalendar) :
    ∃ p, runs execute command limit attempts ⟨{}, none, clock, executor⟩ = .ok p ∧
      p.clock = clock.after (2 * runCount (answerAt execute command limit executor) attempts) ∧
      p.executor = stateAfter execute command limit executor
        (runCount (answerAt execute command limit executor) attempts) ∧
      (resultOf command p).Reports command
        (course execute command limit attempts clock executor) := by
  have made := runs_eq execute command limit attempts ⟨{}, none, clock, executor⟩
  have length := length_course execute command limit attempts clock executor
  have spans : ∀ run ∈ course execute command limit attempts clock executor,
      ∀ d, run.time? = some d → d.total < Instant.longestSpan := by
    intro run inside d time
    rw [Run.span_of_time? time]
    obtain ⟨i, -, rfl⟩ := List.mem_map.1 inside
    exact Clock.total_span_lt inCalendar i
  dsimp only at made
  generalize course execute command limit attempts clock executor = course' at made length spans ⊢
  have few' : course'.length ≤ maxAttempts := by
    rw [length]
    exact Nat.le_trans (runCount_le _ _) few
  obtain ⟨tally, folded, counted⟩ :=
    AttemptSummary.exists_tally_of_spans few' Run.countsAs_attempt spans
  rw [folded, length, Option.or_none] at made
  exact ⟨_, made, rfl, rfl, reports_resultOf command counted rfl⟩

/-- **The result of a probe.**  Let the number of attempts be allowed, let the timeout be told in
whole seconds, and let the clock show instants of the calendar.  Then a probe has a result, whatever
its executor answers.  The executor was asked for one command line, exactly as many times as there
are runs in the course, and the clock was read twice for each; no run was made behind one that shows
that the command cannot be started.  The result says of these runs what is to be said: each counts
once, and the last error is never a timeout. -/
theorem result_reports_course {σ : Type} (c : PingConfig) (execute : Executor σ) (address : String)
    (clock : Clock) (executor : σ)
    (allowed : Config.checkAttempts "ping.attempts" c.attempts = .ok ())
    (short : c.timeout.total < (secondsLimit - 1) * nanosPerSecond)
    (inCalendar : clock.InCalendar) :
    ∃ n command result, Ping.command c address = .ok command ∧
      n = runCount (answerAt execute command c.processTimeout executor) c.attempts.toNat ∧
      probe c execute address clock executor =
        .ok (result, clock.after (2 * n),
          stateAfter execute command c.processTimeout executor n) ∧
      result.Reports command
        (course execute command c.processTimeout c.attempts.toNat clock executor) ∧
      result.aggregate.attempts.toNat = n ∧ result.aggregate.lastError ≠ some .timeout := by
  obtain ⟨seconds, told, -⟩ := exists_timeoutSeconds short
  obtain ⟨command, rendered⟩ : ∃ command, Ping.command c address = .ok command := by
    rw [Ping.command, told]
    exact ⟨_, rfl⟩
  have few := (Config.checkAttempts_eq_ok_iff.1 allowed).2
  obtain ⟨p, made, clock_eq, executor_eq, reports⟩ :=
    exists_runs execute command c.processTimeout executor few inCalendar
  refine ⟨_, command, resultOf command p, rendered, rfl, ?_, reports, ?_, ?_⟩
  · rw [probe, rendered]
    show (runs execute command c.processTimeout c.attempts.toNat _ >>= _) = _
    rw [made, ← clock_eq, ← executor_eq]
    rfl
  · rw [reports.aggregate.attempts, length_course]
  · exact reports.aggregate.lastError_ne fun run _ => run.error?_ne_timeout

/-- An executor that gives prepared answers, and remembers what it was asked for. -/
def prepared : Executor (List (Except ProbeError ProcessOutput) × List (CommandLine × Duration)) :=
  fun command limit (answers, asked) =>
    (answers.headD (.error .timeout), answers.tail, asked ++ [(command, limit)])

/-- A run that ends well, one that takes too long, one that ends otherwise, one that is cut off, one
that cannot be started, and one that is not made any more. -/
def mixedAnswers : List (Except ProbeError ProcessOutput) :=
  [.ok ⟨"up", "", some 0⟩, .error .timeout, .ok ⟨"", "down", some 1⟩, .error .interrupted,
    .error (.spawn "gone"), .ok ⟨"up", "", some 0⟩]

theorem mixed_answers_reported :
    ∃ clock clock' result, Clock.ofOffsets default [0, 7, 9, 20, 30, 8] = .ok clock ∧
      probe { attempts := 6 } prepared "h" clock (mixedAnswers, []) =
        .ok (result, clock', ([.ok ⟨"up", "", some 0⟩],
          List.replicate 5 (⟨"ping", ["-c", "3", "-W", "5", "h"]⟩, .ofSecs 30))) ∧
      result.aggregate.attempts.toNat = 5 ∧ result.aggregate.successfulAttempts.toNat = 1 ∧
      result.aggregate.timeouts.toNat = 2 ∧ result.aggregate.errors.toNat = 2 ∧
      result.aggregate.averageDuration = .ofMillis 7 ∧
      result.aggregate.lastError = some (.spawn "gone") ∧
      result.output = "down" ∧ result.exitCode = some 1 := by
  have shifted : Clock.ofOffsets default [0, 7, 9, 20, 30, 8] = .ok (Clock.ofInstants
      ([0, 7, 9, 20, 30, 8].map fun ms => ⟨0, ms * 1000000⟩)) := by
    rfl
  have inCalendar := Clock.inCalendar_ofOffsets Instant.inCalendar_default shifted
  obtain ⟨n, command, result, rendered, count, probed, reports, attempts, -⟩ :=
    result_reports_course { attempts := 6 } prepared "h" _ (mixedAnswers, []) rfl (by decide)
      inCalendar
  have evaluated : Ping.command { attempts := 6 } "h" =
      .ok ⟨"ping", ["-c", "3", "-W", "5", "h"]⟩ := by
    decide +kernel
  obtain rfl := Except.ok.inj (rendered.symm.trans evaluated)
  have five : n = 5 := count
  subst five
  have counts := reports.aggregate
  exact ⟨_, _, result, shifted, probed, attempts, counts.successes, counts.timeouts, counts.errors,
    Duration.ext counts.average, counts.lastError, reports.output, reports.exitCode⟩

end Reachability.Ping
