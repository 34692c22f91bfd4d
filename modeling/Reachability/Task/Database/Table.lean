/-
# The table of tasks

Rows with a key each.  A key that was given out once is not given out again, even if its
row is gone: the table remembers the largest key ever.

Main definitions:

* `Row`, `Table` : the rows, their keys pairwise different and none above the largest;
* `Table.nextId?` : the key of the next row;
* `Table.append`, `Table.modify`, `Table.erase` : the changes;
* `Table.find?` : the row with a key.
-/
import Reachability.Task.Database.Cell

namespace Reachability

/-- A stored row: the key and the cells of the columns. -/
structure Row where
  id : TaskId
  scheduleId : Cell
  accessType : Cell
  address : Cell
  port : Cell
  intervalMinutes : Cell
  running : Cell
deriving DecidableEq, Repr

/-- The largest key. -/
def maxTaskId : Nat := 0x7fffffffffffffff

/-- The stored rows, and the largest key that was ever given out. -/
structure Table where
  rows : List Row
  largestId : Nat
  largestId_le : largestId ≤ maxTaskId
  ids_nodup : (rows.map Row.id).Nodup
  id_le : ∀ row ∈ rows, row.id.toInt ≤ largestId
deriving Repr

namespace Table

/-- A table without rows. -/
def empty : Table :=
  { rows := []
    largestId := 0
    largestId_le := by decide
    ids_nodup := by simp
    id_le := by simp }

instance : Inhabited Table := ⟨empty⟩

/-! ## Questions -/

/-- The row with a key. -/
def find? (t : Table) (id : TaskId) : Option Row :=
  t.rows.find? (·.id = id)

/-- Whether there is a row with a key. -/
def contains (t : Table) (id : TaskId) : Bool :=
  t.rows.any (·.id = id)

/-- Whether some row carries an identity. -/
def carries (t : Table) (identity : Identity) : Bool :=
  t.rows.any (·.scheduleId = .integer identity.toInt64)

/-! ## Keys -/

/-- The key of the next row, one more than the largest ever; none is left after the last. -/
def nextId? (t : Table) : Option TaskId :=
  if t.largestId < maxTaskId then some (Int64.ofNat (t.largestId + 1)) else none

theorem toInt_ofNat_of_le {n : Nat} (h : n ≤ maxTaskId) : (Int64.ofNat n).toInt = n := by
  apply Int64.toInt_ofNat_of_lt
  unfold maxTaskId at h
  omega

theorem toInt_nextId {t : Table} {id : TaskId} (h : t.nextId? = some id) :
    id.toInt = t.largestId + 1 := by
  unfold nextId? at h
  split at h
  · next lt =>
    cases h
    rw [toInt_ofNat_of_le (by omega)]
    simp
  · cases h

theorem toInt_toNat_le (id : TaskId) : id.toInt.toNat ≤ maxTaskId := by
  have := id.toInt_lt
  unfold maxTaskId
  omega

/-! ## Changes -/

/-- The table with a further row under a key that no row has. -/
def append (t : Table) (row : Row) (fresh : ∀ other ∈ t.rows, other.id ≠ row.id) : Table :=
  { rows := t.rows ++ [row]
    largestId := max t.largestId row.id.toInt.toNat
    largestId_le := Nat.max_le.2 ⟨t.largestId_le, toInt_toNat_le row.id⟩
    ids_nodup := by
      rw [List.map_append, List.nodup_append]
      refine ⟨t.ids_nodup, by simp, ?_⟩
      intro a ha b hb
      obtain ⟨other, hother, rfl⟩ := List.mem_map.1 ha
      simp only [List.map_cons, List.map_nil, List.mem_singleton] at hb
      rw [hb]
      exact fresh other hother
    id_le := by
      intro r hr
      rcases List.mem_append.1 hr with hr | hr
      · have := t.id_le r hr
        omega
      · simp only [List.mem_singleton] at hr
        subst hr
        omega }

/-- The table with a changed row. -/
def modify (t : Table) (id : TaskId) (change : Row → Row)
    (keeps : ∀ row, (change row).id = row.id) : Table :=
  have ids : (t.rows.map fun row => if row.id = id then change row else row).map Row.id =
      t.rows.map Row.id := by
    rw [List.map_map]
    apply List.map_congr_left
    intro row _
    simp only [Function.comp]
    split
    · exact keeps row
    · rfl
  { rows := t.rows.map fun row => if row.id = id then change row else row
    largestId := t.largestId
    largestId_le := t.largestId_le
    ids_nodup := by rw [ids]; exact t.ids_nodup
    id_le := by
      intro r hr
      obtain ⟨row, hrow, rfl⟩ := List.mem_map.1 hr
      split
      · rw [keeps]; exact t.id_le row hrow
      · exact t.id_le row hrow }

/-- The table without a row. -/
def erase (t : Table) (id : TaskId) : Table :=
  { rows := t.rows.filter (·.id ≠ id)
    largestId := t.largestId
    largestId_le := t.largestId_le
    ids_nodup := t.ids_nodup.sublist (List.Sublist.map Row.id List.filter_sublist)
    id_le := fun r hr => t.id_le r (List.mem_filter.1 hr).1 }

/-- The key of the next row belongs to no row. -/
theorem nextId_fresh {t : Table} {id : TaskId} (h : t.nextId? = some id) :
    ∀ other ∈ t.rows, other.id ≠ id := by
  intro other hother heq
  have h1 := t.id_le other hother
  have h2 := toInt_nextId h
  rw [heq] at h1
  omega

end Table
end Reachability
