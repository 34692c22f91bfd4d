/-
# Rows of the table of tasks

What the changes of a table do to its rows, seen through membership and through the look-up by
key, and which identity a row carries.

Main definitions:

* `Row.Carries` : the identity in a row;
* `Table.IdentitiesDistinct` : no two rows carry the same identity.

Main results:

* `mem_append`, `mem_modify`, `mem_erase` : the rows after a change;
* `find?_append`, `find?_modify`, `find?_erase` : the row of a key after a change.
-/
import Mathlib.Data.List.Nodup
import Reachability.Task.Database.Table

namespace Reachability

/-! ## Identities in rows -/

/-- The row carries an identity. -/
def Row.Carries (row : Row) (identity : Identity) : Prop :=
  row.scheduleId = .integer identity.toInt64

/-- A row carries one identity at most. -/
theorem Row.Carries.unique {row : Row} {a b : Identity} (ha : row.Carries a)
    (hb : row.Carries b) : a = b := by
  have h : Cell.integer a.toInt64 = .integer b.toInt64 := ha.symm.trans hb
  rw [Cell.integer.injEq] at h
  apply Int32.toInt.inj
  rw [← Int32.toInt_toInt64, h, Int32.toInt_toInt64]

namespace Table

/-- No two rows carry the same identity. -/
def IdentitiesDistinct (t : Table) : Prop :=
  ∀ a ∈ t.rows, ∀ b ∈ t.rows, ∀ identity : Identity,
    a.Carries identity → b.Carries identity → a = b

theorem identitiesDistinct_empty : empty.IdentitiesDistinct := by
  intro a ha
  cases ha

/-- An identity that is found to be free is carried by no row. -/
theorem carries_eq_false_iff {t : Table} {identity : Identity} :
    t.carries identity = false ↔ ∀ row ∈ t.rows, ¬ row.Carries identity := by
  simp [carries, Row.Carries]

/-! ## Rows after a change -/

variable {t : Table} {id other : TaskId} {row r : Row}

/-- A key belongs to one row at most. -/
theorem eq_of_id_eq {a b : Row} (ha : a ∈ t.rows) (hb : b ∈ t.rows) (h : a.id = b.id) :
    a = b :=
  List.inj_on_of_nodup_map t.ids_nodup ha hb h

theorem mem_append {fresh : ∀ other ∈ t.rows, other.id ≠ row.id} :
    r ∈ (t.append row fresh).rows ↔ r ∈ t.rows ∨ r = row := by
  simp [append]

theorem mem_modify {change : Row → Row} {keeps : ∀ row, (change row).id = row.id} :
    r ∈ (t.modify id change keeps).rows ↔
      ∃ old ∈ t.rows, r = if old.id = id then change old else old := by
  simp [modify, eq_comm]

theorem mem_erase : r ∈ (t.erase id).rows ↔ r ∈ t.rows ∧ r.id ≠ id := by
  simp [erase]

/-! ## Different identities -/

theorem IdentitiesDistinct.append {fresh : ∀ other ∈ t.rows, other.id ≠ row.id}
    (distinct : t.IdentitiesDistinct)
    (free : ∀ identity, row.Carries identity → ∀ other ∈ t.rows, ¬ other.Carries identity) :
    (t.append row fresh).IdentitiesDistinct := by
  intro a ha b hb identity carriesA carriesB
  rcases mem_append.1 ha with oldA | rfl <;> rcases mem_append.1 hb with oldB | rfl
  · exact distinct a oldA b oldB identity carriesA carriesB
  · exact absurd carriesA (free identity carriesB a oldA)
  · exact absurd carriesB (free identity carriesA b oldB)
  · rfl

/-- A changed row keeps its identity or gets one that is free. -/
theorem IdentitiesDistinct.modify {change : Row → Row}
    {keeps : ∀ row, (change row).id = row.id} (distinct : t.IdentitiesDistinct)
    (free : ∀ row identity, (change row).Carries identity →
      row.Carries identity ∨ ∀ other ∈ t.rows, ¬ other.Carries identity) :
    (t.modify id change keeps).IdentitiesDistinct := by
  intro a' ha' b' hb' identity carriesA carriesB
  obtain ⟨a, ha, rfl⟩ := mem_modify.1 ha'
  obtain ⟨b, hb, rfl⟩ := mem_modify.1 hb'
  have same : a = b := by
    by_cases hA : a.id = id <;> by_cases hB : b.id = id
    · exact eq_of_id_eq ha hb (hA.trans hB.symm)
    · rw [if_pos hA] at carriesA
      rw [if_neg hB] at carriesB
      rcases free a identity carriesA with carried | free
      · exact distinct a ha b hb identity carried carriesB
      · exact absurd carriesB (free b hb)
    · rw [if_neg hA] at carriesA
      rw [if_pos hB] at carriesB
      rcases free b identity carriesB with carried | free
      · exact distinct a ha b hb identity carriesA carried
      · exact absurd carriesA (free a ha)
    · rw [if_neg hA] at carriesA
      rw [if_neg hB] at carriesB
      exact distinct a ha b hb identity carriesA carriesB
  rw [same]

theorem IdentitiesDistinct.erase (distinct : t.IdentitiesDistinct) :
    (t.erase id).IdentitiesDistinct :=
  fun a ha b hb => distinct a (mem_erase.1 ha).1 b (mem_erase.1 hb).1

/-! ## The row of a key -/

theorem find?_eq_some_iff : t.find? id = some row ↔ row ∈ t.rows ∧ row.id = id := by
  constructor
  · intro h
    exact ⟨List.mem_of_find?_eq_some h, by simpa using List.find?_some h⟩
  · rintro ⟨hmem, rfl⟩
    cases h : t.find? row.id with
    | none =>
      rw [find?, List.find?_eq_none] at h
      simpa using h row hmem
    | some found =>
      have hfound : found.id = row.id := by simpa using List.find?_some h
      rw [eq_of_id_eq (List.mem_of_find?_eq_some h) hmem hfound]

theorem contains_iff : t.contains id = true ↔ ∃ row, t.find? id = some row := by
  simp [contains, find?, ← Option.isSome_iff_exists]

theorem find?_append {fresh : ∀ other ∈ t.rows, other.id ≠ row.id} :
    (t.append row fresh).find? other = if row.id = other then some row else t.find? other := by
  split
  · next h => exact find?_eq_some_iff.2 ⟨mem_append.2 (Or.inr rfl), h⟩
  · next h => simp [find?, append, h]

theorem find?_modify {change : Row → Row} {keeps : ∀ row, (change row).id = row.id} :
    (t.modify id change keeps).find? other =
      (t.find? other).map fun row => if other = id then change row else row := by
  have same : ((fun r : Row => decide (r.id = other)) ∘
      fun row : Row => if row.id = id then change row else row) =
      fun r : Row => decide (r.id = other) := by
    funext r
    simp only [Function.comp]
    split
    · rw [keeps]
    · rfl
  rw [find?, modify, List.find?_map, same, ← find?]
  cases h : t.find? other with
  | none => rfl
  | some row => rw [Option.map_some, Option.map_some, (find?_eq_some_iff.1 h).2]

theorem find?_erase : (t.erase id).find? other = if other = id then none else t.find? other := by
  cases h : (t.erase id).find? other with
  | none =>
    split
    · rfl
    · next ne =>
      cases hold : t.find? other with
      | none => rfl
      | some row =>
        obtain ⟨hmem, rfl⟩ := find?_eq_some_iff.1 hold
        rw [find?_eq_some_iff.2 ⟨mem_erase.2 ⟨hmem, ne⟩, rfl⟩] at h
        cases h
  | some row =>
    obtain ⟨hmem, rfl⟩ := find?_eq_some_iff.1 h
    obtain ⟨hold, ne⟩ := mem_erase.1 hmem
    rw [if_neg ne, find?_eq_some_iff.2 ⟨hold, rfl⟩]

end Table
end Reachability
