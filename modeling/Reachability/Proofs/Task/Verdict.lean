/-
# Verdicts on schedules

What a monitor finds out about a schedule is settled by the answered calls since the schedule was
handed out.  From them follows the fate of the schedule, and the record that is read fits its
fate.

Main definitions:

* `TaskDatabase.verdict` : the verdict on a schedule;
* `TaskDatabase.Fate`, `TaskDatabase.fate` : what has become of a schedule;
* `Fate.Fits` : the records that fit a fate;
* `TaskDatabase.Follows` : the stored record fits.

Main results:

* `fate_concat` : what one more call makes of a fate;
* `follows_step`, `follows_run` : the record of a task fits the fate of its schedule;
* `verdict_of_schedule` : the verdict from the calls.
-/
import Reachability.Monitor.Basic
import Reachability.Proofs.Task.Reading

namespace Reachability.TaskDatabase

/-! ## Fates -/

/-- The verdict on the schedule of a task, as it is stored now. -/
def verdict (db : TaskDatabase) (id : TaskId) (identity : Identity) : Except Error Verdict :=
  (db.read id).map (evaluate · identity)

/-- What has become of a schedule. -/
inductive Fate
  /-- It is the latest one of its task. -/
  | current (running : Bool)
  /-- The task was scheduled again. -/
  | replaced
  /-- The task was scheduled again more than once. -/
  | outdated
  /-- The task is gone. -/
  | gone
deriving DecidableEq, Repr

namespace Fate

/-- The fate once the task is scheduled again. -/
def renewed : Fate → Fate
  | current _ => replaced
  | replaced => outdated
  | fate => fate

/-- The fate once the task is stopped. -/
def stopped : Fate → Fate
  | current _ => current false
  | fate => fate

/-- The verdict on a schedule.  One that was replaced twice may have got its identity back. -/
def verdict? : Fate → Option Verdict
  | current running => some (if running then .running else .stopped)
  | replaced | gone => some .invalidated
  | outdated => none

/-- The records that fit the fate of the schedule that started with a record. -/
def Fits (first : TaskRecord) : Fate → Option TaskRecord → Prop
  | current running, record => record = some { first with running }
  | replaced, record => ∃ other, record = some other ∧ other.identity ≠ first.identity
  | outdated, record => record.isSome = true
  | gone, record => record = none

/-- A record under another identity fits the fate of a schedule that was replaced. -/
theorem Fits.renewed {fate : Fate} {first before after : TaskRecord}
    (fits : fate.Fits first (some before)) (differs : before.identity ≠ after.identity) :
    fate.renewed.Fits first (some after) := by
  cases fate with
  | current running =>
    rw [Fits, Option.some.injEq] at fits
    subst fits
    exact ⟨after, rfl, differs.symm⟩
  | replaced => rfl
  | outdated => rfl
  | gone => cases fits

/-- A record that only stops running fits the fate of a schedule that was stopped. -/
theorem Fits.stopped {fate : Fate} {first : TaskRecord} {record : Option TaskRecord}
    (fits : fate.Fits first record) :
    fate.stopped.Fits first (record.map fun record => { record with running := false }) := by
  cases fate with
  | current running =>
    rw [Fits] at fits
    rw [fits]
    rfl
  | replaced =>
    obtain ⟨other, rfl, differs⟩ := fits
    exact ⟨_, rfl, differs⟩
  | outdated => exact Option.isSome_map.trans fits
  | gone =>
    rw [Fits] at fits
    rw [fits]
    rfl

/-- The verdict on a record that fits a fate. -/
theorem Fits.evaluate_eq {fate : Fate} {first : TaskRecord} {record : Option TaskRecord}
    {v : Verdict} (fits : fate.Fits first record) (h : fate.verdict? = some v) :
    evaluate record first.identity = v := by
  cases fate with
  | current running =>
    rw [Fits] at fits
    cases h
    rw [fits, evaluate, if_neg (not_not_intro rfl)]
  | replaced =>
    obtain ⟨other, rfl, differs⟩ := fits
    cases h
    exact if_pos differs
  | outdated => cases h
  | gone =>
    rw [Fits] at fits
    cases h
    rw [fits, evaluate]

end Fate

/-- The fate of a schedule after some answered calls. -/
def fate (first : TaskRecord) (log : List (Call × Answer)) : Fate :=
  if log.any (deletes first.id) then .gone
  else
    match log.countP (renews first.id) with
    | 0 => .current (first.running && !log.any (stops first.id))
    | 1 => .replaced
    | _ => .outdated

theorem fate_nil (first : TaskRecord) : fate first [] = .current first.running := by
  simp [fate]

/-- One more call changes the fate only if it concerns the task. -/
theorem fate_concat (first : TaskRecord) (log : List (Call × Answer)) (entry : Call × Answer) :
    fate first (log ++ [entry]) =
      if deletes first.id entry then .gone
      else if renews first.id entry then (fate first log).renewed
      else if stops first.id entry then (fate first log).stopped
      else fate first log := by
  have count : (log ++ [entry]).countP (renews first.id) =
      log.countP (renews first.id) + if renews first.id entry then 1 else 0 := by
    rw [List.countP_append, List.countP_singleton]
  rw [fate, fate, count]
  simp only [List.any_append, List.any_cons, List.any_nil, Bool.or_false]
  cases deletes first.id entry with
  | true => simp
  | false =>
    cases log.any (deletes first.id) with
    | true => simp [Fate.renewed, Fate.stopped]
    | false =>
      cases renews first.id entry with
      | true =>
        rcases log.countP (renews first.id) with _ | _ | n <;> simp [Fate.renewed]
      | false =>
        cases stops first.id entry <;>
          rcases log.countP (renews first.id) with _ | _ | n <;> simp [Fate.stopped]

/-! ## The record of a task -/

section Step

variable {t t' : Table} {call : Call} {answer : Answer} {first : TaskRecord}
  {log : List (Call × Answer)}

/-- The invariant of runs: the key of a schedule was given out, and what the table shows under
it fits the fate of the schedule. -/
structure Follows (first : TaskRecord) (fate : Fate) (t : Table) : Prop where
  known : first.id.toInt ≤ t.largestId
  fits : ∃ record, t.Shows first.id record ∧ fate.Fits first record

/-- A call keeps the record of a task in step with the fate of its schedule. -/
theorem follows_step (c : Changes t call answer t') (follows : Follows first (fate first log) t) :
    Follows first (fate first (log ++ [(call, answer)])) t' := by
  obtain ⟨known, record, shown, fits⟩ := follows
  refine ⟨by have := c.largestId_le; omega, ?_⟩
  rw [fate_concat]
  split
  · next hdeletes => exact ⟨none, c.shows_of_deletes hdeletes, rfl⟩
  · next hdeletes =>
    split
    · next hrenews =>
      obtain ⟨before, identity, rfl, differs, shown'⟩ := c.shows_of_renews hrenews shown
      exact ⟨_, shown', fits.renewed differs⟩
    · next hrenews =>
      split
      · next hstops => exact ⟨_, c.shows_of_stops hstops shown, fits.stopped⟩
      · next hstops =>
        have same := c.find?_of_not_concerns known (by simp [concerns, hdeletes, hrenews, hstops])
        exact ⟨record, shown.congr same, fits⟩

end Step

/-- A schedule that is handed out is the latest one of its task. -/
theorem follows_of_handedOut {s : Session} {call : Call} {first : TaskRecord}
    (handed : handedOut call (s.step call).1 = some first) :
    Follows first (.current first.running) (s.step call).2.db.table := by
  obtain ⟨-, row, hrow, hrecord⟩ := (changes_step s call).shows_of_handedOut handed
  obtain ⟨hmem, hid⟩ := Table.find?_eq_some_iff.1 hrow
  exact ⟨hid ▸ Table.id_le _ row hmem, some first, ⟨row, hrow, hrecord⟩, rfl⟩

/-- The record of a task keeps in step with the fate of a schedule through a run. -/
theorem follows_run {s : Session} {first : TaskRecord}
    (follows : Follows first (.current first.running) s.db.table) (later : List Call) :
    Follows first (fate first (s.log later)) (s.run later).db.table := by
  induction later using List.reverseRecOn with
  | nil =>
    rw [Session.log, fate_nil]
    exact follows
  | append_singleton later call ih =>
    rw [Session.run_concat, Session.log_concat]
    exact follows_step (changes_step _ _) ih

/-! ## Verdicts -/

/-- The verdict on a schedule is that of its fate. -/
theorem verdict_of_follows {db : TaskDatabase} {first : TaskRecord} {fate : Fate} {v : Verdict}
    (follows : Follows first fate db.table) (h : fate.verdict? = some v) :
    db.verdict first.id first.identity = .ok v := by
  obtain ⟨-, record, shown, fits⟩ := follows
  rw [verdict, read_eq_ok_iff.2 shown]
  exact congrArg Except.ok (fits.evaluate_eq h)

/-- What does not concern a task leaves the verdicts on its schedules alone. -/
theorem verdict_step_of_not_concerns {s : Session} {next : Call} {id : TaskId}
    (known : id.toInt ≤ s.db.table.largestId) (h : concerns id (next, (s.step next).1) = false)
    (identity : Identity) :
    (s.step next).2.db.verdict id identity = s.db.verdict id identity := by
  rw [verdict, verdict, read, read, (changes_step s next).find?_of_not_concerns known h]

/-- **The calls since a schedule settle the verdict on it.**  Once its task is removed, or
scheduled again and not yet a second time, it is invalidated.  Before that it is stopped if the
task was stopped or did not run at the start, and runs otherwise.  Calls that fail or are for
other tasks change no verdict. -/
theorem verdict_of_schedule (s : Session) (call : Call) (first : TaskRecord)
    (handed : handedOut call (s.step call).1 = some first) (later : List Call) :
    let log := (s.step call).2.log later
    let now := (s.step call).2.run later
    (log.any (deletes first.id) = true →
        now.db.verdict first.id first.identity = .ok .invalidated) ∧
      (log.countP (renews first.id) = 1 →
        now.db.verdict first.id first.identity = .ok .invalidated) ∧
      (log.any (deletes first.id) = false → log.countP (renews first.id) = 0 →
        now.db.verdict first.id first.identity =
          .ok (if first.running && !log.any (stops first.id) then .running else .stopped)) ∧
      ∀ next, concerns first.id (next, (now.step next).1) = false →
        (now.step next).2.db.verdict first.id first.identity =
          now.db.verdict first.id first.identity := by
  intro log now
  have follows : Follows first (fate first log) now.db.table :=
    follows_run (follows_of_handedOut handed) later
  refine ⟨fun deleted => ?_, fun once => ?_, fun kept never => ?_, fun next h => ?_⟩
  · exact verdict_of_follows follows (by rw [fate, if_pos deleted]; rfl)
  · refine verdict_of_follows follows ?_
    rw [fate, once]
    split <;> rfl
  · refine verdict_of_follows follows ?_
    rw [fate, kept, never]
    rfl
  · exact verdict_step_of_not_concerns follows.known h first.identity

/-- A task that is stopped and then scheduled again, with a supply that first offers the old
identity. -/
theorem verdict_of_schedule_after_stop :
    let task : NewTask := ⟨.download, "http://127.0.0.1/a", 0, 15, true⟩
    let s := Session.new 2 (.ofValues fun n => .ofNat (n / 2))
    let start := (s.step (.insert task)).2
    handedOut (.insert task) (s.step (.insert task)).1 = some ⟨1, 0, true⟩ ∧
      (start.run [.stop 1]).db.verdict 1 0 = .ok .stopped ∧
      (start.run [.stop 1, .reschedule 1]).db.verdict 1 0 = .ok .invalidated := by
  intro task s start
  have handed : handedOut (.insert task) (s.step (.insert task)).1 = some ⟨1, 0, true⟩ := by
    decide +kernel
  refine ⟨handed, ?_, ?_⟩
  · have stopped := (verdict_of_schedule s (.insert task) ⟨1, 0, true⟩ handed [.stop 1]).2.2.1
    exact stopped (by decide +kernel) (by decide +kernel)
  · have renewed :=
      (verdict_of_schedule s (.insert task) ⟨1, 0, true⟩ handed [.stop 1, .reschedule 1]).2.1
    exact renewed (by decide +kernel)

end Reachability.TaskDatabase
