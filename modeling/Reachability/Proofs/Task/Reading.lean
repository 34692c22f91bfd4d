/-
# Records of stored tasks

What is read of a stored task, and what becomes of it with each call.  A key that was given out
belongs to its task for good, so only a call for the task itself changes its record.

Main definitions:

* `Table.Shows` : what is read under a key;
* `TaskDatabase.renews`, `stops`, `deletes` : the answered calls that change a task;
* `TaskDatabase.concerns` : one of these.

Main results:

* `read_eq_ok_iff` : reading tells what the table shows;
* `Changes.shows_of_handedOut` : a schedule that is handed out is shown;
* `Changes.find?_of_not_concerns` : what does not concern a task leaves its row alone;
* `Changes.shows_of_renews`, `Changes.shows_of_stops`, `Changes.shows_of_deletes` : what
  becomes of a record.
-/
import Reachability.Proofs.Task.Session

namespace Reachability

/-! ## Records in rows -/

/-- The identity that is read out of a cell. -/
theorem TaskDatabase.identity?_eq_ok_iff {position : Nat} {c : Cell} {identity : Identity} :
    identity? position c = .ok identity ↔ c = .integer identity.toInt64 := by
  constructor
  · intro h
    cases c with
    | integer i =>
      simp only [identity?, Cell.integer?] at h
      split at h
      · next bounds =>
        cases h
        rw [Cell.integer.injEq]
        apply Int64.toInt.inj
        rw [Int32.toInt_toInt64, Int32.toInt_ofInt_of_le bounds.1 (Int.lt_add_one_of_le bounds.2)]
      · cases h
    | null | real x | text s => cases h
  · rintro rfl
    have bounds := And.intro identity.minValue_le_toInt identity.toInt_le
    simp only [identity?, Cell.integer?, Int32.toInt_toInt64, if_pos bounds]
    exact congrArg Except.ok identity.ofInt_toInt

/-- What was stored as a truth value is read as one. -/
theorem Cell.truth?_ofBool (b : Bool) (position : Nat) (column : String) :
    (ofBool b).truth? position column = .ok b := by
  cases b <;> rfl

/-- The record that is read out of a row. -/
theorem TaskDatabase.recordOf_eq_ok_iff {row : Row} {record : TaskRecord} :
    recordOf row = .ok record ↔ row.id = record.id ∧ row.Carries record.identity ∧
      row.running.truth? 2 "running" = .ok record.running := by
  rw [Row.Carries, ← @identity?_eq_ok_iff 1, recordOf]
  cases identity? 1 row.scheduleId with
  | error e => simp [bind, Except.bind]
  | ok identity =>
    cases row.running.truth? 2 "running" with
    | error e => simp [bind, Except.bind]
    | ok running =>
      obtain ⟨id, other, goesOn⟩ := record
      simp [bind, Except.bind, pure, Except.pure]

/-- What is read under a key: a record, or that there is none. -/
def Table.Shows (t : Table) (id : TaskId) : Option TaskRecord → Prop
  | none => t.find? id = none
  | some record => ∃ row, t.find? id = some row ∧ TaskDatabase.recordOf row = .ok record

/-- Only what the row of a key is counts. -/
theorem Table.Shows.congr {t t' : Table} {id : TaskId} {record : Option TaskRecord}
    (h : t.Shows id record) (same : t'.find? id = t.find? id) : t'.Shows id record := by
  cases record with
  | none => exact same.trans h
  | some record => rwa [Shows, same]

/-- Reading a task tells what the table shows. -/
theorem TaskDatabase.read_eq_ok_iff {db : TaskDatabase} {id : TaskId}
    {record : Option TaskRecord} : db.read id = .ok record ↔ db.table.Shows id record := by
  unfold read
  cases hrow : db.table.find? id with
  | none => cases record <;> simp [Table.Shows, hrow]
  | some row =>
    cases hrecord : recordOf row <;> cases record <;> simp [Table.Shows, hrow, hrecord]

namespace TaskDatabase

/-! ## Calls for a task -/

/-- A call that schedules the task again. -/
def renews (id : TaskId) : Call × Answer → Bool
  | (.reschedule other, .rescheduled _) => other = id
  | _ => false

/-- A call that stops the task. -/
def stops (id : TaskId) : Call × Answer → Bool
  | (.stop other, .stopped) => other = id
  | _ => false

/-- A call that removes the task. -/
def deletes (id : TaskId) : Call × Answer → Bool
  | (.delete other, .deleted found) => other = id && found
  | _ => false

/-- A call that changes the task. -/
def concerns (id : TaskId) (entry : Call × Answer) : Bool :=
  renews id entry || stops id entry || deletes id entry

section Step

variable {t t' : Table} {call : Call} {answer : Answer} {id : TaskId}

/-! ## What a call makes of a record -/

/-- The schedule that is handed out has an identity that was free, and is shown from then
on. -/
theorem Changes.shows_of_handedOut {record : TaskRecord} (c : Changes t call answer t')
    (handed : handedOut call answer = some record) :
    t.carries record.identity = false ∧ t'.Shows record.id (some record) := by
  cases c with
  | inserted next free =>
    cases handed
    refine ⟨free, _, Table.find?_append.trans (if_pos rfl), ?_⟩
    exact recordOf_eq_ok_iff.2 ⟨rfl, rfl, Cell.truth?_ofBool _ _ _⟩
  | rescheduled found free =>
    cases handed
    obtain ⟨row, hrow⟩ := Table.contains_iff.1 found
    refine ⟨free, _, by rw [Table.find?_modify, hrow, Option.map_some, if_pos rfl], ?_⟩
    exact recordOf_eq_ok_iff.2
      ⟨(Table.find?_eq_some_iff.1 hrow).2, rfl, Cell.truth?_ofBool _ _ _⟩
  | stopped found => cases handed
  | deleted => cases handed
  | nothing quiet =>
    rw [handedOut_eq_none quiet] at handed
    cases handed

/-- A call that does not concern a task leaves its row alone: a key that was given out before
is not given out again. -/
theorem Changes.find?_of_not_concerns (c : Changes t call answer t')
    (known : id.toInt ≤ t.largestId) (h : concerns id (call, answer) = false) :
    t'.find? id = t.find? id := by
  cases c with
  | @inserted task given identity next free =>
    have ne : given ≠ id := by
      rintro rfl
      have := Table.toInt_nextId next
      omega
    exact Table.find?_append.trans (if_neg ne)
  | @rescheduled other identity found free =>
    have ne : id ≠ other := by
      rintro rfl
      simp [concerns, renews] at h
    simp [Table.find?_modify, ne]
  | @stopped other found =>
    have ne : id ≠ other := by
      rintro rfl
      simp [concerns, stops] at h
    simp [Table.find?_modify, ne]
  | @deleted other =>
    rw [Table.find?_erase]
    split
    · next same =>
      subst same
      cases hrow : t.find? id with
      | none => rfl
      | some row =>
        have found := Table.contains_iff.2 ⟨row, hrow⟩
        simp [concerns, deletes, found] at h
    · rfl
  | nothing quiet => rfl

/-- A task that is scheduled again is there, and carried another identity before. -/
theorem Changes.differs_of_rescheduled {identity : Identity}
    (c : Changes t (.reschedule id) (.rescheduled identity) t') :
    ∃ row, t.find? id = some row ∧ ¬ row.Carries identity := by
  cases c with
  | rescheduled found free =>
    obtain ⟨row, hrow⟩ := Table.contains_iff.1 found
    exact ⟨row, hrow, Table.carries_eq_false_iff.1 free row (Table.find?_eq_some_iff.1 hrow).1⟩
  | nothing quiet => cases quiet

/-- A task that is scheduled again gets another identity and runs. -/
theorem Changes.shows_of_renews {old : Option TaskRecord} (c : Changes t call answer t')
    (h : renews id (call, answer) = true) (shown : t.Shows id old) :
    ∃ before identity, old = some before ∧ before.identity ≠ identity ∧
      t'.Shows id (some ⟨id, identity, true⟩) := by
  unfold renews at h
  split at h
  · next other identity heq =>
    cases heq
    obtain rfl : other = id := of_decide_eq_true h
    obtain ⟨row, hrow, differs⟩ := c.differs_of_rescheduled
    cases old with
    | none =>
      rw [Table.Shows, hrow] at shown
      cases shown
    | some before =>
      obtain ⟨row', hrow', hrecord⟩ := shown
      obtain rfl : row = row' := Option.some.inj (hrow.symm.trans hrow')
      have carried := (recordOf_eq_ok_iff.1 hrecord).2.1
      refine ⟨before, identity, rfl, fun same => ?_, (c.shows_of_handedOut rfl).2⟩
      exact differs (same ▸ carried)
  · cases h

/-- A task that is stopped keeps its identity. -/
theorem Changes.shows_of_stops {old : Option TaskRecord} (c : Changes t call answer t')
    (h : stops id (call, answer) = true) (shown : t.Shows id old) :
    t'.Shows id (old.map fun record => { record with running := false }) := by
  unfold stops at h
  split at h
  · next other heq =>
    cases heq
    obtain rfl : other = id := of_decide_eq_true h
    cases c with
    | stopped found =>
      cases old with
      | none =>
        rw [Table.Shows] at shown
        rw [Option.map_none, Table.Shows, Table.find?_modify, shown, Option.map_none]
      | some record =>
        obtain ⟨row, hrow, hrecord⟩ := shown
        obtain ⟨hid, carried, -⟩ := recordOf_eq_ok_iff.1 hrecord
        refine ⟨_, by rw [Table.find?_modify, hrow, Option.map_some, if_pos rfl], ?_⟩
        exact recordOf_eq_ok_iff.2 ⟨hid, carried, Cell.truth?_ofBool _ _ _⟩
    | nothing quiet => cases quiet
  · cases h

/-- A task that is removed is gone. -/
theorem Changes.shows_of_deletes (c : Changes t call answer t')
    (h : deletes id (call, answer) = true) : t'.Shows id none := by
  unfold deletes at h
  split at h
  · next other found heq =>
    cases heq
    obtain rfl : other = id := of_decide_eq_true (Bool.and_eq_true_iff.1 h).1
    cases c with
    | deleted => exact Table.find?_erase.trans (if_pos rfl)
    | nothing quiet => cases quiet
  · cases h

end Step

end TaskDatabase
end Reachability
