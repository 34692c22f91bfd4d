/-
# Changes of the task database

What a single change does.  It fails and leaves everything as it was, or it makes one change to
the rows; an identity that it hands out was drawn and found to be free.

Main results:

* `isFree_of_drawUnused` : an identity that is drawn was carried by no row;
* `insert_cases`, `update_cases`, `reschedule_cases` : the cases of each change.
-/
import Reachability.Proofs.Task.Table
import Reachability.Task.Database

namespace Reachability

/-! ## Drawing -/

/-- A value that is drawn was looked up and found free. -/
theorem exists_lookup_of_drawWithin {σ : Type} {inUse : Identity → σ → Except Error Bool × σ}
    {budget remaining : Nat} {supply : IdentitySupply} {state : σ} {identity : Identity}
    (h : (drawWithin inUse budget remaining supply state).result = .ok identity) :
    ∃ before, (inUse identity before).1 = .ok false := by
  induction remaining generalizing supply state with
  | zero => cases h
  | succ remaining ih =>
    rw [drawWithin] at h
    split at h
    · next after heq =>
      cases h
      exact ⟨state, by rw [heq]⟩
    · exact ih h
    · cases h

namespace TaskDatabase

/-- An identity that is drawn was carried by no stored task. -/
theorem isFree_of_drawUnused {db : TaskDatabase} {supply after : IdentitySupply}
    {identity : Identity} (h : db.drawUnused supply = (.ok identity, after)) :
    db.table.carries identity = false := by
  rw [drawUnused, drawUnusedIn, Prod.mk.injEq] at h
  obtain ⟨_, hfree⟩ := exists_lookup_of_drawWithin h.1
  simpa [carries] using hfree

/-! ## Single changes -/

/-- Storing a task fails without an effect, or gives it the next key and a free identity. -/
theorem insert_cases (db : TaskDatabase) (supply : IdentitySupply) (task : NewTask) :
    (∃ e after, db.insert supply task = (.error e, db, after)) ∨
      ∃ id identity after, ∃ next : db.table.nextId? = some id,
        db.table.carries identity = false ∧
          db.insert supply task =
            (.ok (taskWith id identity task),
              { db with
                table := db.table.append (rowOf id identity task) (Table.nextId_fresh next) },
              after) := by
  unfold insert
  split
  · next e after drawn => exact Or.inl ⟨e, after, rfl⟩
  · next identity after drawn =>
    split
    · exact Or.inl ⟨_, after, rfl⟩
    · next id next => exact Or.inr ⟨id, identity, after, next, isFree_of_drawUnused drawn, rfl⟩

/-- A change of a row is made if there is one under the key, and refused otherwise. -/
theorem update_cases (db : TaskDatabase) (id : TaskId) (change : Row → Row)
    (keeps : ∀ row, (change row).id = row.id) :
    (db.table.contains id = true ∧
        db.update id change keeps = .ok { db with table := db.table.modify id change keeps }) ∨
      db.table.contains id = false ∧
        db.update id change keeps = .error (.store (.taskNotFound id)) := by
  unfold update
  cases found : db.table.contains id with
  | true => exact Or.inl ⟨rfl, if_pos rfl⟩
  | false => exact Or.inr ⟨rfl, if_neg Bool.false_ne_true⟩

/-- Scheduling a task again fails without an effect, or finds the task and gives it a free
identity. -/
theorem reschedule_cases (db : TaskDatabase) (supply : IdentitySupply) (id : TaskId) :
    (∃ e after, db.reschedule supply id = (.error e, db, after)) ∨
      ∃ identity after, db.table.contains id = true ∧ db.table.carries identity = false ∧
        db.reschedule supply id =
          (.ok identity,
            { db with
              table := db.table.modify id
                (fun row => { row with
                  scheduleId := .integer identity.toInt64
                  running := .ofBool true }) fun _ => rfl },
            after) := by
  unfold reschedule
  split
  · next e after drawn => exact Or.inl ⟨e, after, rfl⟩
  · next identity after drawn =>
    rcases update_cases db id (fun row => { row with
        scheduleId := .integer identity.toInt64
        running := .ofBool true }) (fun _ => rfl) with ⟨found, h⟩ | ⟨-, h⟩
    · refine Or.inr ⟨identity, after, found, isFree_of_drawUnused drawn, ?_⟩
      simp only [h]
    · refine Or.inl ⟨.store (.taskNotFound id), after, ?_⟩
      simp only [h]

end TaskDatabase
end Reachability
