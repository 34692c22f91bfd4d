/-
# A registry that follows a database

Probes read their tasks from a database or from a registry.  A registry that is told of every
change of a database, in the words that it knows, answers every question as the database does.
The rows of the one and the records of the other stand in the same order, row by row.

Main definitions:

* `Table.MirroredBy` : each record is what is read of the row in its place;
* `Registry.follow`, `Registry.following` : what a registry is told of answered calls.

Main results:

* `MirroredBy.shows`, `MirroredBy.carries_eq`, `MirroredBy.contains_eq` : the same answers;
* `MirroredBy.append`, `MirroredBy.modify`, `MirroredBy.erase` : the same changes;
* `Changes.mirroredBy`, `mirroredBy_run` : a call and a run keep the registry in step;
* `registry_agrees` : the answers of a database and of the registry that follows it.
-/
import Mathlib.Data.List.Forall2
import Reachability.Proofs.Task.Reading
import Reachability.Task.Registry

namespace Reachability

open TaskDatabase

/-! ## Following -/

/-- What a registry is told of a call and its answer.  A task that is scheduled again gets its
identity first and runs then; a call that fails changes nothing. -/
def Registry.follow (r : Registry) : Call × Answer → Registry
  | (.insert _, .inserted task) => r.insert task.record
  | (.reschedule id, .rescheduled identity) =>
      ((r.setIdentity id identity).1.setRunning id true).1
  | (.stop id, .stopped) => (r.setRunning id false).1
  | (.delete id, .deleted _) => (r.remove id).1
  | _ => r

/-- The registry that has followed some answered calls from the start. -/
def Registry.following (log : List (Call × Answer)) : Registry := log.foldl follow .empty

/-- An answer that tells of no change is followed by none. -/
theorem Registry.follow_of_isQuiet {r : Registry} {call : Call} {answer : Answer}
    (quiet : answer.isQuiet = true) : r.follow (call, answer) = r := by
  cases answer with
  | inserted task | rescheduled identity | stopped | deleted found => cases quiet
  | loaded task | read record | carried found | reopened | failed e => cases call <;> rfl

/-- Two changes of one record, of which the first keeps the key, are one. -/
theorem Registry.modify_modify {r : Registry} {id : TaskId} {first second : TaskRecord → TaskRecord}
    (keeps : ∀ record, (first record).id = record.id) :
    (r.modify id first).modify id second = r.modify id fun record => second (first record) := by
  rw [modify, modify, modify, List.map_map]
  congr 2
  funext record
  simp only [Function.comp]
  by_cases same : record.id = id
  · rw [if_pos same, if_pos ((keeps record).trans same), if_pos same]
  · rw [if_neg same, if_neg same, if_neg same]

/-- A task that gets another identity is still known. -/
theorem Registry.contains_setIdentity (r : Registry) (id other : TaskId) (identity : Identity) :
    (r.setIdentity id identity).1.contains other = r.contains other := by
  rw [contains, setIdentity, modify, List.any_map, contains]
  congr 1
  funext record
  simp only [Function.comp]
  split <;> rfl

/-! ## Rows and records -/

namespace Table

/-- Each record is what is read of the row in its place. -/
def MirroredBy (t : Table) (r : Registry) : Prop :=
  List.Forall₂ (fun row record => recordOf row = .ok record) t.rows r.records

variable {t : Table} {r : Registry} {id : TaskId} {row : Row} {record : TaskRecord}

/-- An identity is in use if some row carries it. -/
theorem carries_iff {identity : Identity} :
    t.carries identity = true ↔ ∃ row ∈ t.rows, row.Carries identity := by
  simp [carries, Row.Carries]

theorem mirroredBy_empty : empty.MirroredBy .empty := List.Forall₂.nil

/-- The registry has the record that the table shows. -/
theorem MirroredBy.shows (mirrored : t.MirroredBy r) (id : TaskId) : t.Shows id (r.read? id) := by
  have found : (t.find? id = none ∧ r.read? id = none) ∨ ∃ row record,
      t.find? id = some row ∧ r.read? id = some record ∧ recordOf row = .ok record := by
    rw [find?, Registry.read?]
    unfold MirroredBy at mirrored
    generalize t.rows = rows, r.records = records at mirrored
    induction mirrored with
    | nil => exact Or.inl ⟨rfl, rfl⟩
    | @cons row record rows records head tail ih =>
      have key := (recordOf_eq_ok_iff.1 head).1
      by_cases same : row.id = id
      · refine Or.inr ⟨row, record, ?_, ?_, head⟩
        · exact List.find?_cons_of_pos (by simpa using same)
        · exact List.find?_cons_of_pos (by simpa using key ▸ same)
      · rw [List.find?_cons_of_neg (by simpa using same),
          List.find?_cons_of_neg (by simpa using key ▸ same)]
        exact ih
  rcases found with ⟨hrow, hrecord⟩ | ⟨row, record, hrow, hrecord, reads⟩
  · rw [hrecord]
    exact hrow
  · rw [hrecord]
    exact ⟨row, hrow, reads⟩

/-- A task is known to the registry if the table has it. -/
theorem MirroredBy.contains_eq (mirrored : t.MirroredBy r) (id : TaskId) :
    r.contains id = t.contains id := by
  have shown := mirrored.shows id
  have known : r.contains id = true ↔ (r.read? id).isSome = true := by
    rw [Registry.contains, Registry.read?, List.any_eq_true, List.find?_isSome]
  rw [Bool.eq_iff_iff, known, contains_iff]
  cases hread : r.read? id with
  | none =>
    rw [hread, Shows] at shown
    simp [shown]
  | some record =>
    rw [hread] at shown
    obtain ⟨row, hrow, -⟩ := shown
    simp [hrow]

/-- An identity is carried by a record if it is carried by a row. -/
theorem MirroredBy.carries_eq (mirrored : t.MirroredBy r) (identity : Identity) :
    r.carries identity = t.carries identity := by
  rw [Registry.carries, carries]
  unfold MirroredBy at mirrored
  generalize t.rows = rows, r.records = records at mirrored
  induction mirrored with
  | nil => rfl
  | @cons row record rows records head tail ih =>
    have carried := (recordOf_eq_ok_iff.1 head).2.1
    have same : record.identity = identity ↔ row.scheduleId = .integer identity.toInt64 := by
      constructor
      · rintro rfl
        exact carried
      · intro h
        exact carried.unique h
    rw [List.any_cons, List.any_cons, ih, decide_eq_decide.2 same]

/-- What is read of a row of the table. -/
theorem MirroredBy.exists_recordOf (mirrored : t.MirroredBy r) (h : row ∈ t.rows) :
    ∃ record, recordOf row = .ok record := by
  unfold MirroredBy at mirrored
  generalize t.rows = rows, r.records = records at mirrored h
  induction mirrored with
  | nil => cases h
  | @cons other record rows records head tail ih =>
    rcases List.mem_cons.1 h with rfl | h
    · exact ⟨record, head⟩
    · exact ih h

/-! ## The same changes -/

theorem MirroredBy.erase (mirrored : t.MirroredBy r) (id : TaskId) :
    (t.erase id).MirroredBy (r.erase id) := by
  refine List.rel_filter ?_ mirrored
  intro row record reads
  show decide (row.id ≠ id) = true ↔ decide (record.id ≠ id) = true
  rw [(recordOf_eq_ok_iff.1 reads).1]

theorem MirroredBy.append {fresh : ∀ other ∈ t.rows, other.id ≠ row.id}
    (mirrored : t.MirroredBy r) (reads : recordOf row = .ok record) :
    (t.append row fresh).MirroredBy (r.insert record) := by
  have key : row.id = record.id := (recordOf_eq_ok_iff.1 reads).1
  -- no record has the key of the new one, so none is replaced
  have kept : t.rows.filter (·.id ≠ record.id) = t.rows := by
    rw [List.filter_eq_self]
    intro other hother
    simpa using key ▸ fresh other hother
  have others : List.Forall₂ (fun row record => recordOf row = .ok record)
      (t.rows.filter (·.id ≠ record.id)) (r.erase record.id).records := mirrored.erase record.id
  rw [kept] at others
  exact List.rel_append others (List.Forall₂.cons reads List.Forall₂.nil)

theorem MirroredBy.modify {change : Row → Row} {keeps : ∀ row, (change row).id = row.id}
    {rewrite : TaskRecord → TaskRecord} (mirrored : t.MirroredBy r)
    (reads : ∀ row record, recordOf row = .ok record →
      recordOf (change row) = .ok (rewrite record)) :
    (t.modify id change keeps).MirroredBy (r.modify id rewrite) := by
  refine List.rel_map ?_ mirrored
  intro row record h
  have key := (recordOf_eq_ok_iff.1 h).1
  show recordOf (if row.id = id then change row else row) =
    .ok (if record.id = id then rewrite record else record)
  by_cases same : row.id = id
  · rw [if_pos same, if_pos (key ▸ same)]
    exact reads row record h
  · rw [if_neg same, if_neg (key ▸ same)]
    exact h

end Table

/-! ## Calls and runs -/

section Step

variable {t t' : Table} {call : Call} {answer : Answer} {r : Registry}

/-- A registry that is told of a call stays in step. -/
theorem TaskDatabase.Changes.mirroredBy (c : Changes t call answer t')
    (mirrored : t.MirroredBy r) : t'.MirroredBy (r.follow (call, answer)) := by
  cases c with
  | @inserted task id identity next free =>
    refine mirrored.append ?_
    exact recordOf_eq_ok_iff.2 ⟨rfl, rfl, Cell.truth?_ofBool _ _ _⟩
  | @rescheduled id identity found free =>
    have twice : r.follow (.reschedule id, .rescheduled identity) =
        r.modify id fun record => { record with identity, running := true } :=
      Registry.modify_modify fun record => rfl
    rw [twice]
    refine mirrored.modify fun row record h => ?_
    exact recordOf_eq_ok_iff.2 ⟨(recordOf_eq_ok_iff.1 h).1, rfl, rfl⟩
  | @stopped id found =>
    refine mirrored.modify fun row record h => ?_
    obtain ⟨key, carried, -⟩ := recordOf_eq_ok_iff.1 h
    exact recordOf_eq_ok_iff.2 ⟨key, carried, Cell.truth?_ofBool _ _ _⟩
  | deleted => exact mirrored.erase _
  | nothing quiet =>
    rw [Registry.follow_of_isQuiet quiet]
    exact mirrored

end Step

namespace TaskDatabase

/-- A registry that is told of every call of a run stays in step. -/
theorem mirroredBy_run (retryBudget : UInt32) (supply : IdentitySupply) (calls : List Call) :
    ((Session.new retryBudget supply).run calls).db.table.MirroredBy
      (.following ((Session.new retryBudget supply).log calls)) := by
  induction calls using List.reverseRecOn with
  | nil => exact Table.mirroredBy_empty
  | append_singleton calls call ih =>
    rw [Session.run_concat, Session.log_concat, Registry.following, List.foldl_append]
    exact (changes_step _ call).mirroredBy ih

/-- A task is stopped exactly if the table has it. -/
theorem stopped_iff (s : Session) (id : TaskId) :
    (s.step (.stop id)).1 = .stopped ↔ s.db.table.contains id = true := by
  rcases s.db.update_cases id (fun row => { row with running := .ofBool false })
    (fun _ => rfl) with ⟨found, h⟩ | ⟨missing, h⟩
  · simp only [Session.step, stop, h, found]
  · simp [Session.step, stop, h, missing]

/-- **A registry answers as the database that it follows.**  Whatever a database is asked from the
start on, reopened or not, a registry that is told of every change shows the same record under
every key and finds the same identities in use; a task can be stopped, scheduled again and removed
in the one exactly if it is known to the other; and an identity is in use exactly if the record of
some stored task carries it. -/
theorem registry_agrees (retryBudget : UInt32) (supply : IdentitySupply) (calls : List Call) :
    let now := (Session.new retryBudget supply).run calls
    let registry := Registry.following ((Session.new retryBudget supply).log calls)
    (∀ id, now.db.read id = .ok (registry.read? id)) ∧
      (∀ identity, now.db.carries identity = registry.carries identity) ∧
      (∀ id, (now.step (.stop id)).1 = .stopped ↔ (registry.setRunning id false).2 = true) ∧
      (∀ id, (now.step (.delete id)).1 = .deleted (registry.remove id).2) ∧
      (∀ id identity, (now.step (.reschedule id)).1 = .rescheduled identity →
        (registry.setIdentity id identity).2 = true ∧
          ((registry.setIdentity id identity).1.setRunning id true).2 = true) ∧
      ∀ identity, now.db.carries identity = true ↔
        ∃ id record, now.db.read id = .ok (some record) ∧ record.identity = identity := by
  intro now registry
  have mirrored : now.db.table.MirroredBy registry := mirroredBy_run retryBudget supply calls
  have read_eq : ∀ id, now.db.read id = .ok (registry.read? id) := fun id =>
    read_eq_ok_iff.2 (mirrored.shows id)
  have known : ∀ id, registry.contains id = now.db.table.contains id := mirrored.contains_eq
  refine ⟨read_eq, fun identity => (mirrored.carries_eq identity).symm, fun id => ?_, fun id => ?_,
    fun id identity answered => ?_, fun identity => ⟨fun carried => ?_, ?_⟩⟩
  · show _ ↔ registry.contains id = true
    rw [stopped_iff, known]
  · show Answer.deleted (now.db.table.contains id) = .deleted (registry.contains id)
    rw [known]
  · have c := changes_step now (.reschedule id)
    rw [answered] at c
    obtain ⟨row, hrow, -⟩ := c.differs_of_rescheduled
    have found : registry.contains id = true := by
      rw [known, Table.contains_iff]
      exact ⟨row, hrow⟩
    exact ⟨found, (registry.contains_setIdentity id id identity).trans found⟩
  · obtain ⟨row, hrow, carries⟩ := Table.carries_iff.1 carried
    obtain ⟨record, reads⟩ := mirrored.exists_recordOf hrow
    refine ⟨row.id, record, read_eq_ok_iff.2 ⟨row, ?_, reads⟩, ?_⟩
    · exact Table.find?_eq_some_iff.2 ⟨hrow, rfl⟩
    · exact (recordOf_eq_ok_iff.1 reads).2.1.unique carries
  · rintro ⟨id, record, hread, rfl⟩
    obtain ⟨row, hrow, reads⟩ := read_eq_ok_iff.1 hread
    refine Table.carries_iff.2 ⟨row, (Table.find?_eq_some_iff.1 hrow).1, ?_⟩
    exact (recordOf_eq_ok_iff.1 reads).2.1

/-- A registry that followed two tasks, one of which was scheduled again and the other stopped and
removed, before the first is scheduled once more. -/
theorem registry_agrees_after_reschedule :
    let task : NewTask := ⟨.download, "http://127.0.0.1/a", 0, 15, true⟩
    let s := Session.new 2 (.ofValues fun n => .ofNat (n / 2))
    let calls : List Call :=
      [.insert task, .insert task, .reschedule 1, .stop 2, .reopen 5, .delete 2, .stop 2]
    let registry := Registry.following (s.log calls)
    registry.records = [⟨1, 2, true⟩] ∧
      (s.run calls).db.read 1 = .ok (registry.read? 1) ∧
      ((s.run calls).step (.reschedule 1)).1 = .rescheduled 3 ∧
      (registry.setIdentity 1 3).2 = true := by
  intro task s calls registry
  have answered : ((s.run calls).step (.reschedule 1)).1 = .rescheduled 3 := by decide +kernel
  obtain ⟨reads, -, -, -, renews, -⟩ := registry_agrees 2 (.ofValues fun n => .ofNat (n / 2)) calls
  exact ⟨by decide +kernel, reads 1, answered, (renews 1 3 answered).1⟩

end TaskDatabase
end Reachability
