/-
# Sessions with the task database

A database in use answers one call after the other and draws identities from a supply.  What a
call can do to the stored rows is said once, by `Changes`.

Main definitions:

* `TaskDatabase.Call`, `TaskDatabase.Answer` : what is asked and what comes back;
* `TaskDatabase.handedOut` : the schedules that are handed out;
* `TaskDatabase.Session` : a database in use, `Session.step` : one call;
* `Session.run`, `Session.log` : some calls, and the calls with their answers;
* `TaskDatabase.Changes` : what a call can do to the rows.

Main results:

* `changes_step` : a call does to the rows one of the listed things.
-/
import Mathlib.Data.List.Induction
import Reachability.Proofs.Task.Change

namespace Reachability.TaskDatabase

/-! ## Sessions -/

/-- What a task database is asked. -/
inductive Call
  | insert (task : NewTask)
  | reschedule (id : TaskId)
  | stop (id : TaskId)
  | delete (id : TaskId)
  | load (id : TaskId)
  | read (id : TaskId)
  | carries (identity : Identity)
  /-- The same file is opened again. -/
  | reopen (retryBudget : UInt32)
  /-- A change that the database gives up after some values were drawn. -/
  | abandon (drawn : Nat) (problem : DatabaseError)
deriving DecidableEq, Repr

/-- What comes back. -/
inductive Answer
  | inserted (task : NetworkTask)
  | rescheduled (identity : Identity)
  | stopped
  /-- Whether the task was there. -/
  | deleted (found : Bool)
  | loaded (task : Option NetworkTask)
  | read (record : Option TaskRecord)
  | carried (found : Bool)
  | reopened
  | failed (e : Error)
deriving DecidableEq, Repr

/-- The answers that tell of no change. -/
def Answer.isQuiet : Answer → Bool
  | loaded _ | read _ | carried _ | reopened | failed _ => true
  | _ => false

/-- The schedule that an answer hands out, as the record that starts with it. -/
def handedOut : Call → Answer → Option TaskRecord
  | .insert _, .inserted task => some task.record
  | .reschedule id, .rescheduled identity => some ⟨id, identity, true⟩
  | _, _ => none

/-- Only a change hands something out. -/
theorem handedOut_eq_none {call : Call} {answer : Answer} (quiet : answer.isQuiet = true) :
    handedOut call answer = none := by
  unfold handedOut
  split
  · cases quiet
  · cases quiet
  · rfl

/-- A database in use, with the supply of its identities. -/
structure Session where
  db : TaskDatabase
  supply : IdentitySupply

namespace Session

/-- A session with a new database. -/
def new (retryBudget : UInt32) (supply : IdentitySupply) : Session := ⟨.new retryBudget, supply⟩

/-- The answer to a call, and the session after it. -/
def step (s : Session) : Call → Answer × Session
  | .insert task =>
      match s.db.insert s.supply task with
      | (.ok stored, db, supply) => (.inserted stored, ⟨db, supply⟩)
      | (.error e, db, supply) => (.failed e, ⟨db, supply⟩)
  | .reschedule id =>
      match s.db.reschedule s.supply id with
      | (.ok identity, db, supply) => (.rescheduled identity, ⟨db, supply⟩)
      | (.error e, db, supply) => (.failed e, ⟨db, supply⟩)
  | .stop id =>
      match s.db.stop id with
      | .ok db => (.stopped, { s with db })
      | .error e => (.failed e, s)
  | .delete id => (.deleted (s.db.delete id).1, { s with db := (s.db.delete id).2 })
  | .load id =>
      match s.db.load id with
      | .ok task => (.loaded task, s)
      | .error e => (.failed e, s)
  | .read id =>
      match s.db.read id with
      | .ok record => (.read record, s)
      | .error e => (.failed e, s)
  | .carries identity => (.carried (s.db.carries identity), s)
  | .reopen retryBudget => (.reopened, { s with db := s.db.reopen retryBudget })
  | .abandon drawn problem =>
      (.failed (refused problem), { s with supply.drawn := s.supply.drawn + drawn })

/-- The session after some calls. -/
def run (s : Session) (calls : List Call) : Session :=
  calls.foldl (fun s call => (s.step call).2) s

/-- Some calls with their answers. -/
def log (s : Session) : List Call → List (Call × Answer)
  | [] => []
  | call :: calls => (call, (s.step call).1) :: log (s.step call).2 calls

/-- A run with one more call. -/
theorem run_concat (s : Session) (calls : List Call) (call : Call) :
    s.run (calls ++ [call]) = ((s.run calls).step call).2 := by
  simp only [run, List.foldl_append, List.foldl_cons, List.foldl_nil]

/-- The log of one more call. -/
theorem log_concat (s : Session) (calls : List Call) (call : Call) :
    s.log (calls ++ [call]) = s.log calls ++ [(call, ((s.run calls).step call).1)] := by
  induction calls generalizing s with
  | nil => rfl
  | cons first calls ih =>
    rw [List.cons_append, log, log, ih, List.cons_append]
    rfl

end Session

/-! ## Changes -/

/-- What a call can do to the rows, and what it answers then. -/
inductive Changes (t : Table) : Call → Answer → Table → Prop
  | inserted {task : NewTask} {id : TaskId} {identity : Identity}
      (next : t.nextId? = some id) (free : t.carries identity = false) :
      Changes t (.insert task) (.inserted (taskWith id identity task))
        (t.append (rowOf id identity task) (Table.nextId_fresh next))
  | rescheduled {id : TaskId} {identity : Identity}
      (found : t.contains id = true) (free : t.carries identity = false) :
      Changes t (.reschedule id) (.rescheduled identity)
        (t.modify id
          (fun row => { row with
            scheduleId := .integer identity.toInt64
            running := .ofBool true }) fun _ => rfl)
  | stopped {id : TaskId} (found : t.contains id = true) :
      Changes t (.stop id) .stopped
        (t.modify id (fun row => { row with running := .ofBool false }) fun _ => rfl)
  | deleted {id : TaskId} : Changes t (.delete id) (.deleted (t.contains id)) (t.erase id)
  | nothing {call : Call} {answer : Answer} (quiet : answer.isQuiet = true) :
      Changes t call answer t

/-- The largest key never shrinks. -/
theorem Changes.largestId_le {t t' : Table} {call : Call} {answer : Answer}
    (c : Changes t call answer t') : t.largestId ≤ t'.largestId := by
  cases c with
  | inserted next free => exact Nat.le_max_left _ _
  | rescheduled found free => exact Nat.le_refl _
  | stopped found => exact Nat.le_refl _
  | deleted => exact Nat.le_refl _
  | nothing quiet => exact Nat.le_refl _

/-- A call does to the rows one of these things.  In particular one that fails changes none. -/
theorem changes_step (s : Session) (call : Call) :
    Changes s.db.table call (s.step call).1 (s.step call).2.db.table := by
  cases call with
  | insert task =>
    rcases s.db.insert_cases s.supply task with ⟨e, after, h⟩ | ⟨id, identity, after, next, free, h⟩
    · simp only [Session.step, h]
      exact .nothing rfl
    · simp only [Session.step, h]
      exact .inserted next free
  | reschedule id =>
    rcases s.db.reschedule_cases s.supply id with ⟨e, after, h⟩ | ⟨identity, after, found, free, h⟩
    · simp only [Session.step, h]
      exact .nothing rfl
    · simp only [Session.step, h]
      exact .rescheduled found free
  | stop id =>
    rcases s.db.update_cases id (fun row => { row with running := .ofBool false })
      (fun _ => rfl) with ⟨found, h⟩ | ⟨-, h⟩
    · simp only [Session.step, stop, h]
      exact .stopped found
    · simp only [Session.step, stop, h]
      exact .nothing rfl
  | delete id => exact .deleted
  | load id | read id =>
    simp only [Session.step]
    split <;> exact .nothing rfl
  | carries identity | reopen retryBudget | abandon drawn problem => exact .nothing rfl

end Reachability.TaskDatabase
