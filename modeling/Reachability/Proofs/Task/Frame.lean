/-
# What a call leaves alone

A call for a task touches the row of that task and nothing else, and a call that is refused
touches no row at all.  Two tables are compared by the rows of all other keys, which stand as they
stood, and by the row of the one key before and after.

Main definitions:

* `Table.Replaces` : two tables that differ in the row of one key only.

Main results:

* `replaces_append`, `replaces_modify`, `replaces_erase` : the changes of a table;
* `eq_exhausted_of_drawUnused` : a draw fails for its budget alone;
* `load_of_find?` : a task whose row is found is loaded;
* `calls_touch_one_row` : what each call does and what it leaves alone.
-/
import Reachability.Proofs.Task.Loading

namespace Reachability

/-! ## Tables that differ in one row -/

namespace Table

/-- The tables have the same rows in the same order, but for the row of one key. -/
structure Replaces (t t' : Table) (id : TaskId) (old new : Option Row) : Prop where
  others : t'.rows.filter (·.id ≠ id) = t.rows.filter (·.id ≠ id)
  before : t.find? id = old
  after : t'.find? id = new

variable {t : Table} {id : TaskId} {row : Row}

/-- A key that no row has is not found. -/
theorem find?_eq_none_iff : t.find? id = none ↔ ∀ row ∈ t.rows, row.id ≠ id := by
  simp [find?]

/-- A further row is the only new one. -/
theorem replaces_append {fresh : ∀ other ∈ t.rows, other.id ≠ row.id} :
    Replaces t (t.append row fresh) row.id none (some row) := by
  refine ⟨?_, find?_eq_none_iff.2 fresh, find?_append.trans (if_pos rfl)⟩
  simp [append]

/-- A changed row is the only one that changes. -/
theorem replaces_modify {change : Row → Row} {keeps : ∀ row, (change row).id = row.id}
    (found : t.find? id = some row) :
    Replaces t (t.modify id change keeps) id (some row) (some (change row)) := by
  refine ⟨?_, found, by rw [find?_modify, found, Option.map_some, if_pos rfl]⟩
  rw [modify, List.filter_map]
  -- the key of a row tells whether it is left out, before the change as after it
  have same : ((fun r : Row => decide (r.id ≠ id)) ∘
      fun r : Row => if r.id = id then change r else r) = fun r : Row => decide (r.id ≠ id) := by
    funext r
    simp only [Function.comp]
    split
    · rw [keeps]
    · rfl
  rw [same, List.map_congr_left (g := fun r => r), List.map_id']
  intro r hr
  have other : r.id ≠ id := by simpa using (List.mem_filter.1 hr).2
  exact if_neg other

/-- A row that is removed is the only one that goes. -/
theorem replaces_erase : Replaces t (t.erase id) id (t.find? id) none := by
  refine ⟨?_, rfl, find?_erase.trans (if_pos rfl)⟩
  rw [erase, List.filter_filter]
  simp

end Table

/-! ## Refusals -/

/-- Where every look-up is answered, a draw fails only once the budget is spent. -/
theorem eq_exhausted_of_drawWithin {σ : Type} {inUse : Identity → σ → Except Error Bool × σ}
    (answered : ∀ identity state, ∃ found, (inUse identity state).1 = .ok found)
    {budget remaining : Nat} {supply : IdentitySupply} {state : σ} {e : Error}
    (h : (drawWithin inUse budget remaining supply state).result = .error e) :
    e = .identityExhausted budget := by
  induction remaining generalizing supply state with
  | zero =>
    cases h
    rfl
  | succ remaining ih =>
    rw [drawWithin] at h
    split at h
    · cases h
    · exact ih h
    · next problem after heq =>
      obtain ⟨found, hfound⟩ := answered supply.head state
      rw [heq] at hfound
      cases hfound

namespace TaskDatabase

theorem eq_exhausted_of_drawUnused {db : TaskDatabase} {supply after : IdentitySupply}
    {e : Error} (h : db.drawUnused supply = (.error e, after)) :
    e = .identityExhausted db.retryBudget.toNat := by
  rw [drawUnused, drawUnusedIn, Prod.mk.injEq] at h
  exact eq_exhausted_of_drawWithin (fun identity _ => ⟨db.carries identity, rfl⟩) h.1

/-- Storing a task is refused for want of an identity or of a key, and nothing is stored. -/
theorem refused_insert {db : TaskDatabase} {supply : IdentitySupply} {task : NewTask} {e : Error}
    (h : (db.insert supply task).1 = .error e) :
    (db.insert supply task).2.1 = db ∧ (e = .identityExhausted db.retryBudget.toNat ∨
      e = refused .full ∧ db.table.nextId? = none) := by
  revert h
  unfold insert
  split
  · next problem after drawn =>
    rintro ⟨⟩
    exact ⟨rfl, Or.inl (eq_exhausted_of_drawUnused drawn)⟩
  · next identity after drawn =>
    split
    · next spent =>
      rintro ⟨⟩
      exact ⟨rfl, Or.inr ⟨rfl, spent⟩⟩
    · rintro ⟨⟩

/-- A change of a row is refused where there is none. -/
theorem refused_update {db : TaskDatabase} {id : TaskId} {change : Row → Row}
    {keeps : ∀ row, (change row).id = row.id} {e : Error}
    (h : db.update id change keeps = .error e) :
    e = .store (.taskNotFound id) ∧ db.table.find? id = none := by
  rcases update_cases db id change keeps with ⟨-, done⟩ | ⟨missing, done⟩
  · rw [done] at h
    cases h
  · rw [done] at h
    cases h
    refine ⟨rfl, ?_⟩
    cases hrow : db.table.find? id with
    | none => rfl
    | some row =>
      rw [Table.contains_iff.2 ⟨row, hrow⟩] at missing
      cases missing

/-- Scheduling a task again is refused for want of an identity or of the task, and nothing is
changed. -/
theorem refused_reschedule {db : TaskDatabase} {supply : IdentitySupply} {id : TaskId} {e : Error}
    (h : (db.reschedule supply id).1 = .error e) :
    (db.reschedule supply id).2.1 = db ∧ (e = .identityExhausted db.retryBudget.toNat ∨
      e = .store (.taskNotFound id) ∧ db.table.find? id = none) := by
  revert h
  unfold reschedule
  split
  · next problem after drawn =>
    rintro ⟨⟩
    exact ⟨rfl, Or.inl (eq_exhausted_of_drawUnused drawn)⟩
  · next identity after drawn =>
    dsimp only
    split
    · rintro ⟨⟩
    · next problem missing =>
      rintro ⟨⟩
      exact ⟨rfl, Or.inr (refused_update missing)⟩

/-! ## A task that was stored -/

theorem ofName_name (kind : AccessType) : AccessType.ofName kind.name = .ok kind := by
  cases kind <;> decide +kernel

/-- The row of a task holds the task. -/
theorem holds_rowOf (id : TaskId) (identity : Identity) (task : NewTask) :
    Holds (rowOf id identity task) (taskWith id identity task) := by
  have port_le : task.port.toNat ≤ maxTaskId :=
    Nat.le_trans (Nat.le_of_lt task.port.toNat_lt) (by decide)
  have interval_le : task.intervalMinutes.toNat ≤ maxTaskId :=
    Nat.le_trans (Nat.le_of_lt task.intervalMinutes.toNat_lt) (by decide)
  exact {
    id := rfl
    identity := rfl
    accessType := ⟨_, rfl, ofName_name task.accessType⟩
    address := rfl
    port := ⟨_, rfl, Table.toInt_ofNat_of_le port_le⟩
    intervalMinutes := ⟨_, rfl, Table.toInt_ofNat_of_le interval_le⟩
    running := Cell.truth?_eq_ok_iff.1 (Cell.truth?_ofBool task.running 6 "running") }

/-- A task whose row is found is loaded. -/
theorem load_of_find? {db : TaskDatabase} {id : TaskId} {identity : Identity} {task : NewTask}
    (found : db.table.find? id = some (rowOf id identity task)) :
    db.load id = .ok (some (taskWith id identity task)) :=
  load_eq_some_iff.2 ⟨_, found, holds_rowOf id identity task⟩

/-! ## Changes that are made -/

section Step

variable {t t' : Table} {task : NewTask} {id : TaskId}

/-- A task that is stored gets the next key and a row of its own. -/
theorem Changes.replaces_of_inserted {stored : NetworkTask}
    (c : Changes t (.insert task) (.inserted stored) t') :
    t.nextId? = some stored.id ∧ stored = taskWith stored.id stored.identity task ∧
      t.Replaces t' stored.id none (some (rowOf stored.id stored.identity task)) := by
  cases c with
  | inserted next free => exact ⟨next, rfl, Table.replaces_append⟩
  | nothing quiet => cases quiet

/-- A task that is scheduled again gets the identity that is handed out, and runs. -/
theorem Changes.replaces_of_rescheduled {identity : Identity}
    (c : Changes t (.reschedule id) (.rescheduled identity) t') :
    t'.nextId? = t.nextId? ∧ ∃ row, t.Replaces t' id (some row)
      (some { row with scheduleId := .integer identity.toInt64, running := .ofBool true }) := by
  cases c with
  | rescheduled found free =>
    obtain ⟨row, hrow⟩ := Table.contains_iff.1 found
    exact ⟨rfl, row, Table.replaces_modify hrow⟩
  | nothing quiet => cases quiet

/-- A task that is stopped does not run any more. -/
theorem Changes.replaces_of_stopped (c : Changes t (.stop id) .stopped t') :
    t'.nextId? = t.nextId? ∧ ∃ row, t.Replaces t' id (some row)
      (some { row with running := .ofBool false }) := by
  cases c with
  | stopped found =>
    obtain ⟨row, hrow⟩ := Table.contains_iff.1 found
    exact ⟨rfl, row, Table.replaces_modify hrow⟩
  | nothing quiet => cases quiet

/-- A task that is removed is gone, and the answer tells whether it was there. -/
theorem Changes.replaces_of_deleted {found : Bool}
    (c : Changes t (.delete id) (.deleted found) t') :
    t'.nextId? = t.nextId? ∧ t.Replaces t' id (t.find? id) none ∧
      (found = true ↔ ∃ row, t.find? id = some row) := by
  cases c with
  | deleted => exact ⟨rfl, Table.replaces_erase, Table.contains_iff⟩
  | nothing quiet => cases quiet

end Step

/-! ## Calls -/

/-- A call for a change that fails was refused by the database. -/
theorem refused_of_failed (s : Session) (task : NewTask) (id : TaskId) (e : Error) :
    ((s.step (.insert task)).1 = .failed e →
      (s.db.insert s.supply task).1 = .error e ∧
        (s.step (.insert task)).2.db = (s.db.insert s.supply task).2.1) ∧
    ((s.step (.reschedule id)).1 = .failed e →
      (s.db.reschedule s.supply id).1 = .error e ∧
        (s.step (.reschedule id)).2.db = (s.db.reschedule s.supply id).2.1) ∧
    ((s.step (.stop id)).1 = .failed e →
      s.db.stop id = .error e ∧ (s.step (.stop id)).2.db = s.db) := by
  refine ⟨?_, ?_, ?_⟩ <;>
  · simp only [Session.step]
    split
    · next done => rintro ⟨⟩
    · next done =>
      rintro ⟨⟩
      simp [done]

/-- **A call touches one row at most.**  A change that is refused leaves everything as it was, the
rows and the next key.  A task that is stored gets a row of its own, which is loaded as it was
handed out; a task that is scheduled again gets another identity and runs, one that is stopped
does not run any more, and one that is removed is gone.  All other rows and cells stay. -/
theorem calls_touch_one_row (s : Session) (task : NewTask) (id : TaskId) :
    (∀ e, (s.step (.insert task)).1 = .failed e →
      (s.step (.insert task)).2.db = s.db ∧ (e = .identityExhausted s.db.retryBudget.toNat ∨
        e = refused .full ∧ s.db.table.nextId? = none)) ∧
    (∀ e, (s.step (.reschedule id)).1 = .failed e →
      (s.step (.reschedule id)).2.db = s.db ∧ (e = .identityExhausted s.db.retryBudget.toNat ∨
        e = .store (.taskNotFound id) ∧ s.db.table.find? id = none)) ∧
    (∀ e, (s.step (.stop id)).1 = .failed e →
      (s.step (.stop id)).2.db = s.db ∧ e = .store (.taskNotFound id) ∧
        s.db.table.find? id = none) ∧
    (∀ stored, (s.step (.insert task)).1 = .inserted stored →
      s.db.table.nextId? = some stored.id ∧ stored = taskWith stored.id stored.identity task ∧
        s.db.table.Replaces (s.step (.insert task)).2.db.table stored.id none
          (some (rowOf stored.id stored.identity task)) ∧
        (s.step (.insert task)).2.db.load stored.id = .ok (some stored)) ∧
    (∀ identity, (s.step (.reschedule id)).1 = .rescheduled identity →
      (s.step (.reschedule id)).2.db.table.nextId? = s.db.table.nextId? ∧
        ∃ row, s.db.table.Replaces (s.step (.reschedule id)).2.db.table id (some row)
          (some { row with scheduleId := .integer identity.toInt64, running := .ofBool true })) ∧
    ((s.step (.stop id)).1 = .stopped →
      (s.step (.stop id)).2.db.table.nextId? = s.db.table.nextId? ∧
        ∃ row, s.db.table.Replaces (s.step (.stop id)).2.db.table id (some row)
          (some { row with running := .ofBool false })) ∧
    ∀ found, (s.step (.delete id)).1 = .deleted found →
      (s.step (.delete id)).2.db.table.nextId? = s.db.table.nextId? ∧
        s.db.table.Replaces (s.step (.delete id)).2.db.table id (s.db.table.find? id) none ∧
        (found = true ↔ ∃ row, s.db.table.find? id = some row) := by
  refine ⟨fun e failed => ?_, fun e failed => ?_, fun e failed => ?_, fun stored answered => ?_,
    fun identity answered => ?_, fun answered => ?_, fun found answered => ?_⟩
  · obtain ⟨refusal, same⟩ := (refused_of_failed s task id e).1 failed
    rw [same]
    exact refused_insert refusal
  · obtain ⟨refusal, same⟩ := (refused_of_failed s task id e).2.1 failed
    rw [same]
    exact refused_reschedule refusal
  · obtain ⟨refusal, same⟩ := (refused_of_failed s task id e).2.2 failed
    exact ⟨same, refused_update refusal⟩
  · have c := changes_step s (.insert task)
    rw [answered] at c
    obtain ⟨next, shape, replaces⟩ := c.replaces_of_inserted
    refine ⟨next, shape, replaces, (load_of_find? replaces.after).trans ?_⟩
    rw [← shape]
  · have c := changes_step s (.reschedule id)
    rw [answered] at c
    exact c.replaces_of_rescheduled
  · have c := changes_step s (.stop id)
    rw [answered] at c
    exact c.replaces_of_stopped
  · have c := changes_step s (.delete id)
    rw [answered] at c
    exact c.replaces_of_deleted

/-- A row as another program may have left it, which no task can be read from: a task is stored
beside it, the row is stopped as any other, and a key that is not there is refused. -/
theorem calls_touch_one_row_beside_foreign :
    let foreign : Row := ⟨7, .text "x", .null, .text "h", .integer (-1), .null, .integer 2⟩
    let table := Table.empty.append foreign fun _ h => absurd h List.not_mem_nil
    let s : Session := ⟨⟨table, 2⟩, .ofValues fun n => .ofNat (n / 2)⟩
    let task : NewTask := ⟨.connect, "h", 80, 15, false⟩
    (s.step (.insert task)).1 = .inserted ⟨8, 0, .connect, "h", 80, 15, false⟩ ∧
      s.db.table.Replaces (s.step (.insert task)).2.db.table 8 none (some (rowOf 8 0 task)) ∧
      (s.step (.stop 7)).1 = .stopped ∧
      (∃ row, s.db.table.Replaces (s.step (.stop 7)).2.db.table 7 (some row)
        (some { row with running := .ofBool false })) ∧
      (s.step (.reschedule 8)).1 = .failed (.store (.taskNotFound 8)) ∧
      (s.step (.reschedule 8)).2.db = s.db := by
  intro foreign table s task
  have stored : (s.step (.insert task)).1 = .inserted ⟨8, 0, .connect, "h", 80, 15, false⟩ := by
    decide +kernel
  have stopped : (s.step (.stop 7)).1 = .stopped := by decide +kernel
  have refusal : (s.step (.reschedule 8)).1 = .failed (.store (.taskNotFound 8)) := by
    decide +kernel
  obtain ⟨-, -, -, ofInserted, -, ofStopped, -⟩ := calls_touch_one_row s task 7
  obtain ⟨-, ofRefused, -⟩ := calls_touch_one_row s task 8
  exact ⟨stored, (ofInserted _ stored).2.2.1, stopped, (ofStopped stopped).2, refusal,
    (ofRefused _ refusal).1⟩

end TaskDatabase
end Reachability
