/-
# Statistics of raw output

Of the output of a program only the text without white space around it is read, and the lines of
that output may end in carriage returns.  Neither changes the statistics.  So the statistics of a
probe are those of what its last finished run wrote.

Main definitions:

* `withReturns` : a text with carriage returns in front of its line feeds;
* `attempted` : the runs that a probe makes;
* `ProcessOutput.stream` : the output that is looked at, as it was written.

Main results:

* `ofOutput?_stripped`, `ofOutput?_withReturns` : white space around an output and carriage returns;
* `lastOutput_runs` : the last finished run is what remains of the runs;
* `statistics_of_raw_output` : the statistics of a probe.
-/
import Reachability.Ping.Probe
import Reachability.Proofs.Ping.Lines

namespace Reachability

/-! ## White space around an output -/

namespace Ping

namespace IgnoresMargins

variable {α : Type} {f : List Char → Option α} (hf : IgnoresMargins f)

include hf

theorem filterMap_fields_blanks_append {bs : List Char} (blank : IsBlankLine bs) (cs : List Char) :
    (Text.fields '\n' (bs ++ cs)).filterMap f = (Text.fields '\n' cs).filterMap f := by
  induction bs with
  | nil => rfl
  | cons b bs ih =>
    rw [List.cons_append, hf.filterMap_fields_cons (blank b List.mem_cons_self), ih blank.tail]

theorem filterMap_fields_append_blanks {bs : List Char} (blank : IsBlankLine bs) (cs : List Char) :
    (Text.fields '\n' (cs ++ bs)).filterMap f = (Text.fields '\n' cs).filterMap f := by
  induction bs generalizing cs with
  | nil => rw [List.append_nil]
  | cons b bs ih =>
    rw [← List.singleton_append, ← List.append_assoc, ih blank.tail,
      hf.filterMap_fields_concat (blank b List.mem_cons_self)]

theorem filterMap_fields_strip (cs : List Char) :
    (Text.fields '\n' (Text.strip cs)).filterMap f = (Text.fields '\n' cs).filterMap f := by
  obtain ⟨front, back, blank, blank', parts⟩ := Text.exists_eq_append_strip cs
  have whole : (Text.fields '\n' (front ++ (Text.strip cs ++ back))).filterMap f =
      (Text.fields '\n' (Text.strip cs)).filterMap f := by
    rw [hf.filterMap_fields_blanks_append blank, hf.filterMap_fields_append_blanks blank']
  rw [← whole, ← parts]

end IgnoresMargins

theorem Statistics.ofOutput?_stripped (output : String) :
    ofOutput? (Text.stripped output) = ofOutput? output :=
  ofOutput?_congr fun hf => by
    rw [Text.stripped, String.toList_ofList, hf.filterMap_fields_strip]

/-! ## Carriage returns -/

/-- The text with a carriage return in front of each line feed. -/
def withReturns (output : String) : String :=
  String.ofList (output.toList.flatMap fun c => if c = '\n' then ['\r', '\n'] else [c])

/-- Line by line, only blanks come in at the ends. -/
theorem forall₂_fields_withReturns (cs : List Char) :
    List.Forall₂ (fun l l' => ∃ bs, IsBlankLine bs ∧ l = l' ++ bs)
      (Text.fields '\n' (cs.flatMap fun c => if c = '\n' then ['\r', '\n'] else [c]))
      (Text.fields '\n' cs) := by
  have return_blank : IsBlankLine ['\r'] := List.forall_mem_singleton.2 (by decide)
  induction cs with
  | nil => exact .cons ⟨[], isBlankLine_nil, rfl⟩ .nil
  | cons c cs ih =>
    rw [List.flatMap_cons]
    by_cases feed : c = '\n'
    · rw [if_pos feed, Text.fields, if_pos feed]
      exact .cons ⟨['\r'], return_blank, rfl⟩ ih
    · rw [if_neg feed, List.singleton_append]
      obtain ⟨l, ls, before, after⟩ := Text.fields_cons_of_ne feed
        (cs.flatMap fun c => if c = '\n' then ['\r', '\n'] else [c])
      obtain ⟨l', ls', before', after'⟩ := Text.fields_cons_of_ne feed cs
      rw [before, before'] at ih
      rw [after, after']
      cases ih with
      | cons first rest =>
        obtain ⟨bs, blank, rfl⟩ := first
        exact .cons ⟨bs, blank, rfl⟩ rest

theorem Statistics.ofOutput?_withReturns (output : String) :
    ofOutput? (withReturns output) = ofOutput? output := by
  refine ofOutput?_congr fun {α f} hf => ?_
  rw [withReturns, String.toList_ofList]
  have each := forall₂_fields_withReturns output.toList
  generalize Text.fields '\n' (output.toList.flatMap _) = ls at each ⊢
  generalize Text.fields '\n' output.toList = ls' at each ⊢
  induction each with
  | nil => rfl
  | cons first _ ih =>
    obtain ⟨bs, blank, rfl⟩ := first
    rw [List.filterMap_cons, List.filterMap_cons, hf.back blank, ih]

/-! ## Runs of a probe -/

/-- The runs that a probe makes, up to the given number; one that shows that the command cannot be
started is the last. -/
def attempted {σ : Type} (execute : Executor σ) (command : CommandLine) (limit : Duration) :
    Nat → σ → List (Except ProbeError ProcessOutput)
  | 0, _ => []
  | remaining + 1, executor =>
      let (run, executor) := execute command limit executor
      run :: if endsProbe run then [] else attempted execute command limit remaining executor

/-- What the last finished run left. -/
def lastFinished (runs : List (Except ProbeError ProcessOutput)) : Option ProcessOutput :=
  (runs.filterMap Except.toOption).getLast?

theorem lastFinished_cons (run : Except ProbeError ProcessOutput)
    (runs : List (Except ProbeError ProcessOutput)) :
    lastFinished (run :: runs) = (lastFinished runs).or run.toOption := by
  cases run with
  | error e => simp [lastFinished, Except.toOption]
  | ok output =>
    have first : (Except.ok output :: runs).filterMap Except.toOption =
        output :: runs.filterMap Except.toOption := rfl
    rw [lastFinished, lastFinished, first, List.getLast?_cons]
    cases (runs.filterMap Except.toOption).getLast? <;> rfl

/-- The last finished run is what remains of the runs. -/
theorem lastOutput_runs {σ : Type} {execute : Executor σ} {command : CommandLine} {limit : Duration}
    {n : Nat} {p p' : Progress σ} (h : runs execute command limit n p = .ok p') :
    p'.lastOutput =
      (lastFinished (attempted execute command limit n p.executor)).or p.lastOutput := by
  -- what is known so far remains if no further run finishes
  induction n generalizing p with
  | zero =>
    obtain rfl := Except.ok.inj h
    rfl
  | succ n ih =>
    rw [runs] at h
    rw [attempted]
    generalize execute command limit p.executor = made at h ⊢
    obtain ⟨run, executor⟩ := made
    dsimp only at h ⊢
    generalize p.tally.record _ = counted at h
    rw [lastFinished_cons]
    cases counted with
    | error fault => cases h
    | ok tally =>
      change (if endsProbe run = true then Except.ok _ else runs execute command limit n _) = _ at h
      by_cases last : endsProbe run = true
      · rw [if_pos last] at h ⊢
        obtain rfl := Except.ok.inj h
        rfl
      · rw [if_neg last] at h ⊢
        rw [ih h, Option.or_assoc]

end Ping

/-! ## What a probe looks at -/

namespace ProcessOutput

/-- The output that is looked at, as the program wrote it: the standard error if there is only
white space on the standard output. -/
def stream (o : ProcessOutput) : String :=
  if Text.isBlankText o.stdout then o.stderr else o.stdout

theorem text_eq_stripped_stream (o : ProcessOutput) : o.text = Text.stripped o.stream := by
  have empty : (Text.stripped o.stdout).isEmpty = Text.isBlankText o.stdout := by
    rw [Bool.eq_iff_iff, Text.isBlankText, List.all_eq_true, String.isEmpty_iff, Text.stripped,
      String.ofList_eq_empty_iff, Text.strip_eq_nil_iff]
  rw [text, stream, empty]
  cases Text.isBlankText o.stdout <;> rfl

end ProcessOutput

namespace Ping

theorem resultOf_of_some {σ : Type} {p : Progress σ} {o : ProcessOutput} (command : CommandLine)
    (h : p.lastOutput = some o) : (resultOf command p).output = o.text ∧
      (resultOf command p).statistics = Statistics.ofOutput o.text := by
  simp [resultOf, h]

theorem resultOf_of_none {σ : Type} {p : Progress σ} (command : CommandLine)
    (h : p.lastOutput = none) : (resultOf command p).output = "" ∧
      (resultOf command p).statistics = .absent := by
  simp [resultOf, h]

/-- **Only the raw output counts.**  White space around an output does not change its statistics,
and neither do carriage returns in front of its line feeds.  So the statistics of a probe, which
reads its output without the white space around it, are those of what the last finished run wrote;
and if no run finished, there are none. -/
theorem statistics_of_raw_output :
    (∀ output : String, Statistics.ofOutput (Text.stripped output) = Statistics.ofOutput output) ∧
    (∀ output : String, Statistics.ofOutput (withReturns output) = Statistics.ofOutput output) ∧
    ∀ {σ : Type} (c : PingConfig) (execute : Executor σ) (address : String) (clock clock' : Clock)
      (executor executor' : σ) (result : Result),
      probe c execute address clock executor = .ok (result, clock', executor') →
      ∃ command, Ping.command c address = .ok command ∧
        match lastFinished
          (attempted execute command c.processTimeout c.attempts.toNat executor) with
        | some o => result.output = Text.stripped o.stream ∧
            result.statistics = Statistics.ofOutput o.stream
        | none => result.output = "" ∧ result.statistics = .absent := by
  refine ⟨fun output => Statistics.ofOutput_congr (Statistics.ofOutput?_stripped output),
    fun output => Statistics.ofOutput_congr (Statistics.ofOutput?_withReturns output), ?_⟩
  intro σ c execute address clock clock' executor executor' result probed
  rw [probe] at probed
  cases rendered : Ping.command c address with
  | error fault =>
    rw [rendered] at probed
    cases probed
  | ok command =>
    rw [rendered] at probed
    change (runs execute command c.processTimeout c.attempts.toNat
      ⟨{}, none, clock, executor⟩ >>= _) = _ at probed
    refine ⟨command, rfl, ?_⟩
    cases made : runs execute command c.processTimeout c.attempts.toNat
      ⟨{}, none, clock, executor⟩ with
    | error fault =>
      rw [made] at probed
      cases probed
    | ok p =>
      rw [made] at probed
      obtain ⟨rfl, -⟩ := Prod.mk.inj (Except.ok.inj probed)
      have last := lastOutput_runs made
      rw [Option.or_none] at last
      rw [← last]
      cases finished : p.lastOutput with
      | none => exact resultOf_of_none command finished
      | some o =>
        obtain ⟨output, statistics⟩ := resultOf_of_some command finished
        rw [o.text_eq_stripped_stream] at output statistics
        exact ⟨output, statistics.trans
          (Statistics.ofOutput_congr (Statistics.ofOutput?_stripped o.stream))⟩

/-- A run that writes to its standard error, and runs that take too long. -/
def answersOnce (written : String) : Executor Nat := fun _ _ made =>
  (if made = 0 then .ok ⟨" \n", written, some 0⟩ else .error .timeout, made + 1)

/-- White space around an output of lines with carriage returns, and a run behind it that does not
finish. -/
theorem statistics_of_raw_error_output :
    let raw := "\r\n 7 bytes from h: time=1 \r\n1 packets transmitted, 1 received, 0% packet loss\t"
    ∃ result clock executor,
      probe { attempts := 2 } (answersOnce raw) "h" (.ofInstants []) 0 =
        .ok (result, clock, executor) ∧
      result.output = Text.stripped raw ∧ result.statistics = Statistics.ofOutput raw ∧
      result.statistics = ⟨true, 1, 1, Binary64.zero false, 7, 1, Binary64.ofNat 1⟩ := by
  intro raw
  have returns :
      (probe { attempts := 2 } (answersOnce raw) "h" (.ofInstants []) 0).isOk = true := by
    decide +kernel
  cases probed : probe { attempts := 2 } (answersOnce raw) "h" (.ofInstants []) 0 with
  | error fault =>
    rw [probed] at returns
    cases returns
  | ok made =>
    obtain ⟨result, clock, executor⟩ := made
    obtain ⟨command, -, last⟩ := statistics_of_raw_output.2.2 _ _ _ _ _ _ _ _ probed
    have finished : lastFinished (attempted (answersOnce raw) command
        ({ attempts := 2 } : PingConfig).processTimeout
        ({ attempts := 2 } : PingConfig).attempts.toNat 0) = some ⟨" \n", raw, some 0⟩ := rfl
    rw [finished] at last
    have read : ({ stdout := " \n", stderr := raw, exitCode := some 0 } : ProcessOutput).stream =
        raw := by
      decide +kernel
    dsimp only at last
    rw [read] at last
    have known : Statistics.ofOutput raw =
        ⟨true, 1, 1, Binary64.zero false, 7, 1, Binary64.ofNat 1⟩ := by
      decide +kernel
    exact ⟨result, clock, executor, rfl, last.1, last.2, last.2.trans known⟩

end Ping
end Reachability
