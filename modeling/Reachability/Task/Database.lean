/-
# The task database

The tasks that outlive a program run.  Each schedule of a task carries a fresh identity;
adding and scheduling draw it from a supply within the retry budget.

Main definitions:

* `TaskDatabase.insert`, `TaskDatabase.reschedule`, `TaskDatabase.stop`,
  `TaskDatabase.delete` : the changes; one that fails changes nothing;
* `TaskDatabase.load`, `TaskDatabase.read`, `TaskDatabase.carries` : what is stored;
* `TaskDatabase.insertRow` : a row as another program may have written it.
-/
import Reachability.Task.Database.Table
import Reachability.Task.Identity

namespace Reachability

/-- The stored tasks, with the number of values to try for an identity. -/
structure TaskDatabase where
  table : Table
  retryBudget : UInt32
deriving Repr

namespace TaskDatabase

/-! ## Opening -/

/-- A new database. -/
def new (retryBudget : UInt32) : TaskDatabase := ⟨.empty, retryBudget⟩

/-- The same stored tasks with another retry budget. -/
def reopen (db : TaskDatabase) (retryBudget : UInt32) : TaskDatabase :=
  { db with retryBudget }

/-- An error of the database as an error of the store. -/
def refused (e : DatabaseError) : Error := .store (.database e)

/-! ## Questions -/

/-- Whether some stored task carries an identity. -/
def carries (db : TaskDatabase) (identity : Identity) : Bool := db.table.carries identity

/-- Draws an identity that no stored task carries. -/
def drawUnused (db : TaskDatabase) (supply : IdentitySupply) :
    Except Error Identity × IdentitySupply :=
  drawUnusedIn (fun identity => .ok (db.carries identity)) db.retryBudget supply

/-- An identity out of a cell. -/
def identity? (position : Nat) (c : Cell) : Except DatabaseError Identity :=
  return Int32.ofInt
    (← c.integer? Int32.minValue.toInt Int32.maxValue.toInt position "schedule_id")

/-- The record in a row, its cells read from left to right. -/
def recordOf (row : Row) : Except DatabaseError TaskRecord := do
  let identity ← identity? 1 row.scheduleId
  let running ← row.running.truth? 2 "running"
  return ⟨row.id, identity, running⟩

/-- The task in a row with the text for its kind of probe; all cells are read, from left to
right, before that text is looked at. -/
def taskOf (row : Row) : Except Error NetworkTask := do
  let cells : Except DatabaseError (Identity × String × String × UInt16 × UInt32 × Bool) := do
    let identity ← identity? 1 row.scheduleId
    let accessType ← row.accessType.text? 2 "access_type"
    let address ← row.address.text? 3 "address"
    let port ← row.port.integer? 0 (UInt16.size - 1) 4 "port"
    let interval ← row.intervalMinutes.integer? 0 (UInt32.size - 1) 5
      "interval_minutes"
    let running ← row.running.truth? 6 "running"
    return (identity, accessType, address, UInt16.ofNat port.toNat,
      UInt32.ofNat interval.toNat, running)
  match cells with
  | .error e => .error (refused e)
  | .ok (identity, kindName, address, port, interval, running) =>
      match AccessType.ofName kindName with
      | .error _ => .error (.store (.invalidColumn "access_type" kindName))
      | .ok kind => .ok ⟨row.id, identity, kind, address, port, interval, running⟩

/-- The stored task with a key. -/
def load (db : TaskDatabase) (id : TaskId) : Except Error (Option NetworkTask) :=
  match db.table.find? id with
  | none => .ok none
  | some row => (taskOf row).map some

/-- The record of the stored task with a key. -/
def read (db : TaskDatabase) (id : TaskId) : Except Error (Option TaskRecord) :=
  match db.table.find? id with
  | none => .ok none
  | some row =>
      match recordOf row with
      | .ok record => .ok (some record)
      | .error e => .error (refused e)

/-! ## Changes -/

/-- The row of a task under a key. -/
def rowOf (id : TaskId) (identity : Identity) (task : NewTask) : Row :=
  { id
    scheduleId := .integer identity.toInt64
    accessType := .text task.accessType.name
    address := .text task.address
    port := .integer (Int64.ofNat task.port.toNat)
    intervalMinutes := .integer (Int64.ofNat task.intervalMinutes.toNat)
    running := .ofBool task.running }

/-- A task under a key and an identity. -/
def taskWith (id : TaskId) (identity : Identity) (task : NewTask) : NetworkTask :=
  ⟨id, identity, task.accessType, task.address, task.port, task.intervalMinutes, task.running⟩

/-- Stores a task under the next key and a fresh identity. -/
def insert (db : TaskDatabase) (supply : IdentitySupply) (task : NewTask) :
    Except Error NetworkTask × TaskDatabase × IdentitySupply :=
  match db.drawUnused supply with
  | (.error e, supply) => (.error e, db, supply)
  | (.ok identity, supply) =>
      match h : db.table.nextId? with
      | none => (.error (refused .full), db, supply)
      | some id =>
          let table := db.table.append (rowOf id identity task) (Table.nextId_fresh h)
          (.ok (taskWith id identity task), { db with table }, supply)

/-- Changes the row with a key, if there is one. -/
def update (db : TaskDatabase) (id : TaskId) (change : Row → Row)
    (keeps : ∀ row, (change row).id = row.id) : Except Error TaskDatabase :=
  if db.table.contains id then .ok { db with table := db.table.modify id change keeps }
  else .error (.store (.taskNotFound id))

/-- Schedules a task again: it gets a fresh identity and runs. -/
def reschedule (db : TaskDatabase) (supply : IdentitySupply) (id : TaskId) :
    Except Error Identity × TaskDatabase × IdentitySupply :=
  match db.drawUnused supply with
  | (.error e, supply) => (.error e, db, supply)
  | (.ok identity, supply) =>
      let change (row : Row) : Row :=
        { row with scheduleId := .integer identity.toInt64, running := .ofBool true }
      match db.update id change (fun _ => rfl) with
      | .ok db => (.ok identity, db, supply)
      | .error e => (.error e, db, supply)

/-- Marks a task as stopped. -/
def stop (db : TaskDatabase) (id : TaskId) : Except Error TaskDatabase :=
  db.update id (fun row => { row with running := .ofBool false }) (fun _ => rfl)

/-- Removes a task, and tells whether it was there. -/
def delete (db : TaskDatabase) (id : TaskId) : Bool × TaskDatabase :=
  (db.table.contains id, { db with table := db.table.erase id })

/-! ## Foreign rows -/

/-- The cells of a row as they are handed in. -/
structure RawRow where
  id : Cell
  scheduleId : Cell
  accessType : Cell
  address : Cell
  port : Cell
  intervalMinutes : Cell
  running : Cell
deriving DecidableEq, Repr

/-- A cell that has to hold something. -/
def present (column : String) (c : Cell) : Except DatabaseError Cell :=
  if c = .null then .error (.constraint ("NOT NULL constraint failed: network_tasks." ++ column))
  else .ok c

/-- The key of a raw row, the next one if it has none. -/
def rawId (table : Table) (c : Cell) : Except DatabaseError TaskId :=
  match c.towardsInteger with
  | .integer i => .ok i
  | .null =>
      match table.nextId? with
      | some id => .ok id
      | none => .error .full
  | _ => .error .typeMismatch

/-- Stores a row as another program may have written it: every column turns its value into
the preferred type. -/
def insertRow (db : TaskDatabase) (raw : RawRow) : Except DatabaseError TaskDatabase := do
  let id ← rawId db.table raw.id
  let row : Row :=
    { id
      scheduleId := ← present "schedule_id" raw.scheduleId.towardsInteger
      accessType := ← present "access_type" raw.accessType.towardsText
      address := ← present "address" raw.address.towardsText
      port := ← present "port" raw.port.towardsInteger
      intervalMinutes := ← present "interval_minutes" raw.intervalMinutes.towardsInteger
      running := ← present "running" raw.running.towardsInteger }
  if fresh : ∀ other ∈ db.table.rows, other.id ≠ row.id then
    return { db with table := db.table.append row fresh }
  else .error (.constraint "UNIQUE constraint failed: network_tasks.id")

end TaskDatabase
end Reachability
