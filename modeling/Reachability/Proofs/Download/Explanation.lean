/-
# What the result of a download explains

A download that was not successful should tell why: by an error, or by flags that show a
cancellation.  The copying is cut short for flags that are read before the file is closed,
while the result shows the flags that the monitor published last.  A poll in between can take
the verdict back, and then the result tells nothing.

Main definitions:

* `Transfer.settlements`, `Transfer.deletionErrors` : what a run came to;
* `Transfer.Account` : what the outcome of a transfer says about that;
* `Transfer.LosesCause` : the runs in which the verdict was taken back;
* `transfer?`, `returns` : the transfer of a download, and whether it comes to its end.

Main results:

* `account_run` : every run leaves an account of itself;
* `Account.error_isSome_eq_false_iff` : the accounts without success and without an error;
* `explained_iff` : an unsuccessful download explains itself unless its transfer loses the cause;
* `unexplained_after_restart` : there is a download that does not.
-/
import Reachability.Proofs.Download.Cancellation
import Reachability.Task.Registry

namespace Reachability.Download

/-- Whether the transfer is settled, or ended before there was anything to settle. -/
def Phase.isPastSettling : Phase → Bool
  | .looking _ | .deleting _ | .finished => true
  | _ => false

namespace Transfer

/-! ## What a run came to -/

/-- What the settling of a transfer is told. -/
structure Settlement where
  copied : Ending
  problem : Option ProbeError
  interrupted : Bool
deriving DecidableEq, Repr

/-- The settling of a transfer. -/
def settles (t : Transfer) (_ : File.Tree) : Event → Option Settlement
  | .advance _ =>
      match t.phase with
      | .settling _ copied problem => some ⟨copied, problem, t.interrupted⟩
      | _ => none
  | _ => none

/-- A deletion that fails. -/
def failsToDelete (t : Transfer) (tree : File.Tree) : Event → Option ProbeError
  | .advance fault =>
      match t.phase with
      | .deleting name =>
          match t.delete tree fault name with
          | .ok _ => none
          | .error e => some e
      | _ => none
  | _ => none

/-- The settlings in a run. -/
def settlements (t : Transfer) (tree : File.Tree) (events : List Event) : List Settlement :=
  observed settles t tree events

/-- The errors of deletions in a run. -/
def deletionErrors (t : Transfer) (tree : File.Tree) (events : List Event) : List ProbeError :=
  observed failsToDelete t tree events

/-! ## Accounts -/

/-- What the outcome of a transfer says about the settlings and the failed deletions of the
run that led to it. -/
inductive Account (t : Transfer) : List Settlement → List ProbeError → Prop
  | pending (past : t.phase.isPastSettling = false) (success : t.success = false)
      (error : t.error = none) : Account t [] []
  | failed (phase : t.phase = .finished) (success : t.success = false)
      (error : t.error.isSome = true) : Account t [] []
  | settled (s : Settlement) (past : t.phase.isPastSettling = true)
      (success : t.success = (settle s.copied s.problem s.interrupted).1)
      (error : t.error = (settle s.copied s.problem s.interrupted).2) : Account t [s] []
  | undeleted (s : Settlement) (e : ProbeError) (phase : t.phase = .finished)
      (success : t.success = (settle s.copied s.problem s.interrupted).1)
      (error : t.error = (settle s.copied s.problem s.interrupted).2.or (some e)) :
      Account t [s] [e]

/-- Accounts speak of the phase, the success and the error alone. -/
theorem Account.congr {t t' : Transfer} {ss : List Settlement} {es : List ProbeError}
    (account : Account t ss es) (phase : t'.phase = t.phase) (success : t'.success = t.success)
    (error : t'.error = t.error) : Account t' ss es := by
  cases account with
  | pending hp hs he => exact .pending (phase ▸ hp) (success.trans hs) (error.trans he)
  | failed hp hs he => exact .failed (phase.trans hp) (success.trans hs) (error ▸ he)
  | settled s hp hs he => exact .settled s (phase ▸ hp) (success.trans hs) (error.trans he)
  | undeleted s e hp hs he =>
    exact .undeleted s e (phase.trans hp) (success.trans hs) (error.trans he)

/-- Before the settling nothing is settled. -/
theorem Account.of_pending {t : Transfer} {ss : List Settlement} {es : List ProbeError}
    (account : Account t ss es) (past : t.phase.isPastSettling = false) :
    ss = [] ∧ es = [] ∧ t.success = false ∧ t.error = none := by
  cases account with
  | pending _ hs he => exact ⟨rfl, rfl, hs, he⟩
  | failed hp | undeleted _ _ hp =>
    rw [hp] at past
    cases past
  | settled s hp =>
    rw [hp] at past
    cases past

/-- Between the settling and the end the transfer is settled. -/
theorem Account.of_settled {t : Transfer} {ss : List Settlement} {es : List ProbeError}
    (account : Account t ss es) (past : t.phase.isPastSettling = true)
    (going : t.phase ≠ .finished) :
    ∃ s : Settlement, ss = [s] ∧ es = [] ∧
      t.success = (settle s.copied s.problem s.interrupted).1 ∧
      t.error = (settle s.copied s.problem s.interrupted).2 := by
  cases account with
  | pending hp =>
    rw [hp] at past
    cases past
  | failed hp | undeleted _ _ hp => exact absurd hp going
  | settled s _ hs he => exact ⟨s, rfl, rfl, hs, he⟩

/-- A step of the transfer itself keeps the account. -/
theorem Account.advance {t : Transfer} {ss : List Settlement} {es : List ProbeError}
    (account : Account t ss es) (tree : File.Tree) (fault : Option String) :
    Account (t.advance tree fault).1 (ss ++ (settles t tree (.advance fault)).toList)
      (es ++ (failsToDelete t tree (.advance fault)).toList) := by
  have cases_of_step := advances t tree fault
  generalize t.advance tree fault = s at cases_of_step
  cases cases_of_step with
  | nameless phase | uncreated phase =>
    obtain ⟨rfl, rfl, hs, -⟩ := account.of_pending (by rw [phase]; rfl)
    simpa [settles, failsToDelete, phase] using .failed rfl hs rfl
  | settled phase =>
    obtain ⟨rfl, rfl, -, -⟩ := account.of_pending (by rw [phase]; rfl)
    simpa [settles, failsToDelete, phase] using .settled ⟨_, _, t.interrupted⟩ rfl rfl rfl
  | found phase | looked phase =>
    obtain ⟨s, rfl, rfl, hs, he⟩ := account.of_settled (by rw [phase]; rfl) (by simp [phase])
    simpa [settles, failsToDelete, phase] using .settled s rfl hs he
  | deleted phase removed =>
    obtain ⟨s, rfl, rfl, hs, he⟩ := account.of_settled (by rw [phase]; rfl) (by simp [phase])
    simpa [settles, failsToDelete, phase, removed] using .settled s rfl hs he
  | undeleted phase failed =>
    obtain ⟨s, rfl, rfl, hs, he⟩ := account.of_settled (by rw [phase]; rfl) (by simp [phase])
    simp only [settles, failsToDelete, phase, failed, Option.toList_none, Option.toList_some,
      List.append_nil, List.nil_append]
    exact .undeleted s _ rfl hs (by rw [he])
  | waited phase | rested phase => simpa [settles, failsToDelete, phase] using account
  | passed phase | named phase | created phase | allowed phase | refused phase | taken phase
  | ended phase | written phase | unwritten phase | flushed phase | unflushed phase
  | closed phase =>
    obtain ⟨rfl, rfl, hs, he⟩ := account.of_pending (by rw [phase]; rfl)
    simp only [settles, failsToDelete, phase, Option.toList_none, List.append_nil]
    exact .pending rfl hs he

/-- Whatever happens to a transfer, its outcome gives an account of its run. -/
theorem account_run {t : Transfer} (fresh : Account t [] []) (tree : File.Tree)
    (events : List Event) :
    Account (t.run tree events).1 (t.settlements tree events)
      (t.deletionErrors tree events) := by
  induction events using List.reverseRecOn with
  | nil => exact fresh
  | append_singleton events e ih =>
    rw [settlements, deletionErrors, observed_concat, observed_concat, run_concat]
    cases e with
    | advance fault => exact ih.advance _ fault
    | interrupt =>
      simp only [settles, failsToDelete, Option.toList_none, List.append_nil]
      exact ih.congr rfl rfl rfl
    | polled read | arrive bytes | bodyEnds problem =>
      simp only [settles, failsToDelete, Option.toList_none, List.append_nil, step]
      split
      · exact ih.congr rfl rfl rfl
      · exact ih

/-- A transfer that came to its end without success has no error only if its copying was cut
short without the caller, and nothing failed after that. -/
theorem Account.error_isSome_eq_false_iff {t : Transfer} {ss : List Settlement}
    {es : List ProbeError} (account : Account t ss es) (finished : t.phase = .finished)
    (unsuccessful : t.success = false) :
    t.error.isSome = false ↔ ss = [⟨.aborted, none, false⟩] ∧ es = [] := by
  cases account with
  | pending past =>
    rw [finished] at past
    cases past
  | failed _ _ error => simp [error]
  | undeleted s e _ _ error => simp [error]
  | settled s _ success error =>
    rw [unsuccessful] at success
    obtain ⟨copied, problem, interrupted⟩ := s
    rw [error]
    cases copied with
    | exhausted =>
      cases problem with
      | none => cases success
      | some e => simp [settle]
    | aborted => cases problem <;> cases interrupted <;> simp [settle]
    | failed e => simp [settle]

/-! ## Lost causes -/

/-- A run in which the cause of an early end is lost.  The copying was cut short by the flags
alone, closing and deleting met no error, and the last read of the monitor either failed or
found the task running under its identity. -/
structure LosesCause (t : Transfer) (tree : File.Tree) (events : List Event) : Prop where
  settled : t.settlements tree events = [⟨.aborted, none, false⟩]
  undeleted : t.deletionErrors tree events = []
  relents : ∃ read, (t.heard tree events).getLast? = some read ∧
    ∀ record, read = .ok record →
      ∃ r, record = some r ∧ r.identity = t.identity ∧ r.running = true

/-- A transfer that was cut short without its caller has a monitor that heard something. -/
theorem heard_ne_nil {t : Transfer} {tree : File.Tree} {events : List Event}
    {problem : Option ProbeError} (copying : t.phase.copied? = none)
    (valid : t.flags.valid = true)
    (settled : ⟨.aborted, problem, false⟩ ∈ t.settlements tree events) :
    t.heard tree events ≠ [] := by
  obtain ⟨before, e, after, rfl, seen⟩ := exists_of_mem_observed settled
  obtain ⟨name, phase, patient⟩ : ∃ name,
      (t.run tree before).1.phase = .settling name .aborted problem ∧
        (t.run tree before).1.interrupted = false := by
    cases e with
    | advance fault =>
      simp only [settles] at seen
      split at seen
      · next name copied problem' phase =>
        simp only [Option.some.injEq, Settlement.mk.injEq] at seen
        obtain ⟨rfl, rfl, patient⟩ := seen
        exact ⟨name, phase, patient⟩
      · cases seen
    | _ => cases seen
  have impatient := interrupted_run t tree before
  rw [patient] at impatient
  rcases cause_of_aborted copying valid before (by rw [phase]; rfl) with hi | hi | ⟨record, hr, -⟩
  · cases impatient.2 (Or.inl hi)
  · cases impatient.2 (Or.inr hi)
  · rw [heard, observed_append]
    exact List.append_ne_nil_of_left_ne_nil (List.ne_nil_of_mem hr) _

/-- A transfer that lets the download go on at the end is one whose last read relents. -/
theorem valid_run_iff {t : Transfer} {tree : File.Tree} {events : List Event}
    (heardSome : t.heard tree events ≠ []) :
    (t.run tree events).1.flags.valid = true ↔
      ∃ read, (t.heard tree events).getLast? = some read ∧
        ∀ record, read = .ok record →
          ∃ r, record = some r ∧ r.identity = t.identity ∧ r.running = true := by
  have hl := List.getLast?_eq_some_getLast heardSome
  rw [flags_run, hl, Option.elim_some, ← Bool.not_eq_false, Flags.valid_polled_eq_false_iff]
  simp only [← evaluate_eq_running_iff, Option.some.injEq, exists_eq_left', not_exists, not_and,
    ne_eq, not_not]

/-- A monitor that lets the download go on at the end shows no stop either. -/
theorem stopped_run_eq_false {t : Transfer} {tree : File.Tree} {events : List Event}
    (heardSome : t.heard tree events ≠ []) (valid : (t.run tree events).1.flags.valid = true) :
    (t.run tree events).1.flags.stopped = false := by
  rw [flags_run, List.getLast?_eq_some_getLast heardSome] at valid ⊢
  exact Flags.stopped_polled_eq_false valid

/-- An unsuccessful transfer shows an error or adverse flags unless it loses the cause. -/
theorem error_or_flags_iff {t : Transfer} {tree : File.Tree} {events : List Event}
    (copying : t.phase.copied? = none) (valid : t.flags.valid = true) (fresh : Account t [] [])
    (finished : (t.run tree events).1.phase = .finished)
    (unsuccessful : (t.run tree events).1.success = false) :
    ((t.run tree events).1.error.isSome = true ∨ (t.run tree events).1.flags.valid = false ∨
        (t.run tree events).1.flags.stopped = true) ↔ ¬ t.LosesCause tree events := by
  have silent_iff := (account_run fresh tree events).error_isSome_eq_false_iff finished unsuccessful
  cases silent : (t.run tree events).1.error.isSome with
  | true =>
    refine iff_of_true (Or.inl rfl) fun loses => ?_
    rw [silent_iff.2 ⟨loses.settled, loses.undeleted⟩] at silent
    cases silent
  | false =>
    obtain ⟨settled, undeleted⟩ := silent_iff.1 silent
    have aborted : ⟨.aborted, none, false⟩ ∈ t.settlements tree events := by
      rw [settled]
      exact List.mem_singleton_self _
    have heardSome : t.heard tree events ≠ [] := heard_ne_nil copying valid aborted
    constructor
    · rintro (h | h | h) loses
      · cases h
      · rw [(valid_run_iff heardSome).2 loses.relents] at h
        cases h
      · rw [stopped_run_eq_false heardSome ((valid_run_iff heardSome).2 loses.relents)] at h
        cases h
    · intro keeps
      refine Or.inr (Or.inl (Bool.eq_false_iff.2 fun hv => keeps ⟨settled, undeleted, ?_⟩))
      exact (valid_run_iff heardSome).1 hv

end Transfer

/-! ## Downloads -/

/-- The transfer of a download, if there is an answer to store. -/
def transfer? {σ : Type} (c : DownloadConfig) (ask : Http.Peer σ) (identity : Identity)
    (text : String) (interrupted : Bool) (peer : σ) : Option Transfer :=
  (connect c ask text peer).2.1.map fun goal => .start c identity goal interrupted

/-- Whether a download returns: its transfer, if there is one, comes to its end. -/
def returns {σ : Type} (c : DownloadConfig) (ask : Http.Peer σ) (identity : Identity)
    (text : String) (interrupted : Bool) (events : List Event) (tree : File.Tree) (peer : σ) :
    Bool :=
  (transfer? c ask identity text interrupted peer).all fun t => (t.run tree events).1.isFinished

/-- A download without an answer to store has an error. -/
theorem error_connect {σ : Type} {c : DownloadConfig} {ask : Http.Peer σ} {text : String}
    {peer : σ} (h : (connect c ask text peer).2.1 = none) :
    (connect c ask text peer).1.error.isSome = true := by
  unfold connect at h ⊢
  dsimp only at h ⊢
  split
  · rfl
  · split
    · rfl
    · split
      · simp_all
      · rfl

/-- **Lost causes are the only unexplained failures.**  A download that returns without success
carries an error or counts as cancelled, unless its copying was cut short by the flags alone and
the verdict was taken back before the monitor stopped, by a read that found the task running
again or by one that failed. -/
theorem explained_iff {σ : Type} (c : DownloadConfig) (ask : Http.Peer σ) (identity : Identity)
    (text : String) (interrupted : Bool) (events : List Event) (tree : File.Tree)
    (clock : Clock) (peer : σ)
    (returned : returns c ask identity text interrupted events tree peer = true)
    (unsuccessful : (probe c ask identity text interrupted events tree clock
      peer).1.transferSuccess = false) :
    ((probe c ask identity text interrupted events tree clock peer).1.error.isSome = true ∨
        (probe c ask identity text interrupted events tree clock peer).1.isCancelled = true) ↔
      ∀ t, transfer? c ask identity text interrupted peer = some t →
        ¬ t.LosesCause tree events := by
  cases hgoal : (connect c ask text peer).2.1 with
  | none =>
    refine iff_of_true (Or.inl ?_) fun t ht => ?_
    · have herror := error_connect hgoal
      simpa [probe, hgoal] using herror
    · simp [transfer?, hgoal] at ht
  | some goal =>
    have htransfer : transfer? c ask identity text interrupted peer =
        some (.start c identity goal interrupted) := by
      rw [transfer?, hgoal, Option.map_some]
    have finished : ((Transfer.start c identity goal interrupted).run tree events).1.phase =
        .finished := by
      rw [returns, htransfer, Option.all_some, Transfer.isFinished, beq_iff_eq] at returned
      exact returned
    simp only [probe, hgoal, Result.withTransfer] at unsuccessful
    simp only [htransfer, Option.some.injEq, forall_eq']
    rw [← Transfer.error_or_flags_iff rfl rfl (.pending rfl rfl rfl) finished unsuccessful]
    simp only [probe, hgoal, Result.withTransfer, Result.isCancelled, unsuccessful, Bool.not_false,
      Bool.true_and, Bool.or_eq_true, Bool.not_eq_true', beq_iff_eq]
    constructor
    · rintro (h | h | h)
      · exact Or.inl h
      · exact Or.inr h
      · exact Or.inl (by rw [h]; rfl)
    · rintro (h | h)
      · exact Or.inl h
      · exact Or.inr (Or.inl h)

/-! ## A stop and what follows -/

/-- A peer that answers every request. -/
def answering : Http.Peer Unit :=
  fun _ _ => (.response { status := ⟨200, by decide, by decide⟩ }, ())

/-- A download whose task 1 is stopped after the first piece.  The monitor reads that, the
copying is cut short, and the monitor reads once more before the file is closed. -/
def stoppedOnce (last : Except Error (Option TaskRecord)) : List Event :=
  let stopped := ((Registry.empty.insert ⟨1, 42, true⟩).setRunning 1 false).1
  [.advance none, .advance none, .arrive [104, 105], .advance none, .advance none,
    .advance none, .polled (.ok (stopped.read? 1)), .advance none, .polled last,
    .advance none, .advance none, .advance none, .advance none, .advance none]

/-- A task that stays stopped explains the end of its download. -/
theorem explained_if_stopped :
    let last : Except Error (Option TaskRecord) := .ok (some ⟨1, 42, false⟩)
    let c : DownloadConfig := { directory := "files" }
    let r := (probe c answering 42 "http://127.0.0.1/a" false (stoppedOnce last) {}
      (.ofInstants []) ()).1
    returns c answering 42 "http://127.0.0.1/a" false (stoppedOnce last) {} () = true ∧
      r.transferSuccess = false ∧ ((r.error.isSome = true ∨ r.isCancelled = true) ↔
        ∀ t, transfer? c answering 42 "http://127.0.0.1/a" false () = some t →
          ¬ t.LosesCause {} (stoppedOnce last)) := by
  intro last c r
  have returned :
      returns c answering 42 "http://127.0.0.1/a" false (stoppedOnce last) {} () = true := by
    decide +kernel
  have unsuccessful : r.transferSuccess = false := by decide +kernel
  exact ⟨returned, unsuccessful, explained_iff _ _ _ _ _ _ _ _ _ returned unsuccessful⟩

/-- A task that runs again before the file is closed, or a read that fails by then, leaves a
download without success, without an error, and not cancelled. -/
theorem unexplained_after_restart :
    let stopped := ((Registry.empty.insert ⟨1, 42, true⟩).setRunning 1 false).1
    let restarted := (stopped.setRunning 1 true).1
    let c : DownloadConfig := { directory := "files" }
    ∀ last ∈ [Except.ok (restarted.read? 1), .error (.store .lockPoisoned)],
      let r := (probe c answering 42 "http://127.0.0.1/a" false (stoppedOnce last) {}
        (.ofInstants []) ()).1
      returns c answering 42 "http://127.0.0.1/a" false (stoppedOnce last) {} () = true ∧
        r.transferSuccess = false ∧ r.error = none ∧ r.isCancelled = false := by
  decide +kernel

end Reachability.Download
