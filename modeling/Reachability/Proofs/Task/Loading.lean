/-
# Loaded tasks

A task is loaded out of all cells of its row, and its record is read out of two of them.  Whatever
the cells hold, the record that is read is that of the task that is loaded: a running probe is never
told something else about its task than what it was started with.

Main definitions:

* `TaskDatabase.Holds` : the cells of a row hold a task.

Main results:

* `taskOf_eq_ok_iff` : exactly the tasks that rows hold are read out of them;
* `load_eq_some_iff`, `load_eq_none_iff` : which tasks are loaded;
* `loaded_task_read` : what is read of a task does not contradict what it was loaded as.
-/
import Reachability.Monitor.Basic
import Reachability.Proofs.Steps
import Reachability.Proofs.Task.Reading

namespace Reachability

/-! ## Cells -/

namespace Cell

variable {c : Cell} {position : Nat} {column : String}

/-- An integer is read out of a cell that holds it, if it lies between the bounds. -/
theorem integer?_eq_ok_iff {low high n : Int} :
    c.integer? low high position column = .ok n ↔
      ∃ i, c = .integer i ∧ i.toInt = n ∧ low ≤ n ∧ n ≤ high := by
  cases c with
  | integer i =>
    rw [integer?]
    split
    · next bounds =>
      constructor
      · rintro ⟨rfl⟩
        exact ⟨i, rfl, rfl, bounds⟩
      · rintro ⟨_, ⟨rfl⟩, rfl, -⟩
        rfl
    · next outside =>
      constructor
      · intro h
        cases h
      · rintro ⟨_, ⟨rfl⟩, rfl, bounds⟩
        exact absurd bounds outside
  | null | real x | text s => simp [integer?]

theorem text?_eq_ok_iff {s : String} : c.text? position column = .ok s ↔ c = .text s := by
  cases c <;> simp [text?]

theorem truth?_eq_ok_iff {b : Bool} :
    c.truth? position column = .ok b ↔ ∃ i, c = .integer i ∧ (i != 0) = b := by
  cases c <;> simp [truth?]

end Cell

namespace TaskDatabase

/-! ## Tasks in rows -/

/-- The cells of a row hold a task. -/
structure Holds (row : Row) (task : NetworkTask) : Prop where
  id : row.id = task.id
  identity : row.Carries task.identity
  accessType : ∃ name, row.accessType = .text name ∧ AccessType.ofName name = .ok task.accessType
  address : row.address = .text task.address
  port : ∃ i, row.port = .integer i ∧ i.toInt = task.port.toNat
  intervalMinutes : ∃ i, row.intervalMinutes = .integer i ∧ i.toInt = task.intervalMinutes.toNat
  running : ∃ i, row.running = .integer i ∧ (i != 0) = task.running

variable {row : Row} {task : NetworkTask}

/-- The task that is read out of a row is the one that its cells hold. -/
theorem taskOf_eq_ok_iff : taskOf row = .ok task ↔ Holds row task := by
  constructor
  · intro h
    unfold taskOf at h
    dsimp only at h
    split at h
    · cases h
    · next cells =>
      simp only [Steps.bind_eq_ok_iff, pure, Except.pure, Except.ok.injEq, Prod.mk.injEq] at cells
      obtain ⟨_, identity, _, kindName, _, address, _, port, _, interval, _, running, rfl, rfl, rfl,
        rfl, rfl, rfl⟩ := cells
      rw [identity?_eq_ok_iff] at identity
      rw [Cell.text?_eq_ok_iff] at kindName address
      rw [Cell.truth?_eq_ok_iff] at running
      obtain ⟨i, port, hi, low, high⟩ := Cell.integer?_eq_ok_iff.1 port
      obtain ⟨j, interval, hj, low', high'⟩ := Cell.integer?_eq_ok_iff.1 interval
      split at h
      · cases h
      · next kind named =>
        obtain rfl := Except.ok.inj h
        refine ⟨rfl, identity, ⟨_, kindName, named⟩, address, ⟨i, port, ?_⟩, ⟨j, interval, ?_⟩,
          running⟩
        · rw [UInt16.toNat_ofNat_of_lt' (by omega)]
          omega
        · rw [UInt32.toNat_ofNat_of_lt' (by omega)]
          omega
  · rintro ⟨key, identity, ⟨kindName, kind, named⟩, address, ⟨i, port, hi⟩, ⟨j, interval, hj⟩,
      running⟩
    have port_lt : task.port.toNat < UInt16.size := task.port.toNat_lt
    have interval_lt : task.intervalMinutes.toNat < UInt32.size := task.intervalMinutes.toNat_lt
    have hidentity := (@identity?_eq_ok_iff 1 _ _).2 identity
    have hkind := (@Cell.text?_eq_ok_iff _ 2 "access_type" _).2 kind
    have haddress := (@Cell.text?_eq_ok_iff _ 3 "address" _).2 address
    have hport : row.port.integer? 0 (UInt16.size - 1) 4 "port" = .ok (task.port.toNat : Int) :=
      Cell.integer?_eq_ok_iff.2 ⟨i, port, hi, by omega, by omega⟩
    have hinterval : row.intervalMinutes.integer? 0 (UInt32.size - 1) 5 "interval_minutes" =
        .ok (task.intervalMinutes.toNat : Int) :=
      Cell.integer?_eq_ok_iff.2 ⟨j, interval, hj, by omega, by omega⟩
    have hrunning := (@Cell.truth?_eq_ok_iff _ 6 "running" _).2 running
    simp only [taskOf, hidentity, hkind, haddress, hport, hinterval, hrunning, bind, Except.bind,
      pure, Except.pure, named, Int.toNat_natCast, UInt16.ofNat_toNat, UInt32.ofNat_toNat, key]

/-- The record of the task that a row holds is read out of it. -/
theorem Holds.recordOf (holds : Holds row task) : recordOf row = .ok task.record :=
  recordOf_eq_ok_iff.2 ⟨holds.id, holds.identity, Cell.truth?_eq_ok_iff.2 holds.running⟩

/-! ## Loading and reading -/

variable {db : TaskDatabase} {id : TaskId}

/-- A task is loaded if the row with its key holds it. -/
theorem load_eq_some_iff :
    db.load id = .ok (some task) ↔ ∃ row, db.table.find? id = some row ∧ Holds row task := by
  rw [load]
  cases found : db.table.find? id with
  | none => simp
  | some row =>
    simp only [← taskOf_eq_ok_iff, Option.some.injEq, exists_eq_left']
    cases taskOf row <;> simp [Except.map]

/-- That there is no task is told if no row has the key. -/
theorem load_eq_none_iff : db.load id = .ok none ↔ db.table.find? id = none := by
  rw [load]
  cases found : db.table.find? id with
  | none => simp
  | some row =>
    show (taskOf row).map some = .ok none ↔ some row = none
    cases taskOf row <;> simp [Except.map]

/-- **What is read of a task does not contradict what it was loaded as.**  Whatever the rows hold:
a task is loaded exactly if the row with its key holds it, and then its record is read; loading and
reading agree on whether there is a task; and where reading fails, loading fails too.  So a monitor
that reads a task as it was loaded finds it running or stopped, as it was then, and not replaced. -/
theorem loaded_task_read (db : TaskDatabase) (id : TaskId) :
    (∀ task, db.load id = .ok (some task) ↔
      ∃ row, db.table.find? id = some row ∧ Holds row task) ∧
    (∀ task, db.load id = .ok (some task) → db.read id = .ok (some task.record)) ∧
    (db.load id = .ok none ↔ db.read id = .ok none) ∧
    (∀ e, db.read id = .error e → ∃ e', db.load id = .error e') ∧
    ∀ task record, db.load id = .ok (some task) → db.read id = .ok record →
      evaluate record task.identity = if task.running then .running else .stopped := by
  have records : ∀ task, db.load id = .ok (some task) → db.read id = .ok (some task.record) := by
    intro task loaded
    obtain ⟨row, found, holds⟩ := load_eq_some_iff.1 loaded
    exact read_eq_ok_iff.2 ⟨row, found, holds.recordOf⟩
  have absent : db.load id = .ok none ↔ db.read id = .ok none := by
    rw [load_eq_none_iff, read_eq_ok_iff, Table.Shows]
  refine ⟨fun _ => load_eq_some_iff, records, absent, fun e failed => ?_,
    fun task record loaded read => ?_⟩
  · cases loaded : db.load id with
    | error e' => exact ⟨e', rfl⟩
    | ok found =>
      -- had anything been loaded, reading would have told the same
      cases found with
      | none => rw [absent.1 loaded] at failed; cases failed
      | some task => rw [records task loaded] at failed; cases failed
  · rw [records task loaded] at read
    obtain rfl := Except.ok.inj read
    have same : ¬task.record.identity ≠ task.identity := fun differs => differs rfl
    rw [evaluate, if_neg same]
    rfl

/-- Three rows of another program: one with a kind in capitals and a large truth value, one with
a text for its identity, one with a double for its port. -/
theorem foreign_tasks_read :
    let row : Row :=
      ⟨1, .integer (-5), .text "PING", .text "h", .integer 80, .integer 15, .integer 7⟩
    let table : Table :=
      { rows := [row, { row with id := 2, scheduleId := .text "x" },
          { row with id := 3, port := .real (.ofRatio false 1 2) }]
        largestId := 3
        largestId_le := by decide
        ids_nodup := by decide
        id_le := by decide }
    let db : TaskDatabase := ⟨table, 10⟩
    let task : NetworkTask := ⟨1, -5, .ping, "h", 80, 15, true⟩
    (db.load 1 = .ok (some task) ∧ db.read 1 = .ok (some task.record) ∧
        evaluate (some task.record) task.identity = .running) ∧
      (db.read 2 = .error (refused (.columnType "Text" 1 "schedule_id")) ∧
        ∃ e, db.load 2 = .error e) ∧
      (db.load 3 = .error (refused (.columnType "Real" 4 "port")) ∧
        db.read 3 = .ok (some ⟨3, -5, true⟩)) ∧
      (db.load 4 = .ok none ∧ db.read 4 = .ok none) := by
  intro row table db task
  have loaded : db.load 1 = .ok (some task) := by decide +kernel
  have failed : db.read 2 = .error (refused (.columnType "Text" 1 "schedule_id")) := by
    decide +kernel
  have missing : db.load 4 = .ok none := by decide +kernel
  obtain ⟨-, records, -, -, verdicts⟩ := loaded_task_read db 1
  obtain ⟨-, -, -, fails, -⟩ := loaded_task_read db 2
  obtain ⟨-, -, absent, -, -⟩ := loaded_task_read db 4
  have read := records task loaded
  exact ⟨⟨loaded, read, verdicts task _ loaded read⟩, ⟨failed, fails _ failed⟩,
    ⟨by decide +kernel, by decide +kernel⟩, ⟨missing, absent.1 missing⟩⟩

end TaskDatabase
end Reachability
