/-
# Records in documents

A table whose names are distinct gives a record, whatever the order of its entries.

Main definitions:

* `Reorders` : tables with the same entries, in some order.

Main results:

* `fields?_of_reorders` : the fields of a record, by name;
* `asNatBelow?_natCast`, `asListOf?_map`, `optional_map` : single values are read from what they are
  written as.
-/
import Mathlib.Data.List.Nodup
import Mathlib.Data.List.Perm.Basic
import Reachability.Document.Basic

namespace Reachability.Document

/-! ## Names -/

variable {entries entries' : List (String × Document)} {name : String}

theorem lookup?_eq_some_iff (distinct : (entries.map (·.1)).Nodup) {d : Document} :
    lookup? name entries = some d ↔ (name, d) ∈ entries := by
  -- the last entry with a name counts, so the entries are searched from the end
  have backwards : (entries.reverse.map (·.1)).Nodup := by
    rwa [List.map_reverse, List.nodup_reverse]
  rw [lookup?, ← List.mem_reverse]
  generalize entries.reverse = es at backwards
  induction es with
  | nil => simp
  | cons e es ih =>
    obtain ⟨n, d'⟩ := e
    rw [List.map_cons, List.nodup_cons] at backwards
    by_cases same : n = name
    · subst same
      have absent : (n, d) ∉ es := fun there => backwards.1 (List.mem_map.2 ⟨_, there, rfl⟩)
      simp [absent, eq_comm]
    · simpa [same, Ne.symm same] using ih backwards.2

theorem lookup?_perm (perm : entries.Perm entries') (distinct : (entries.map (·.1)).Nodup) :
    lookup? name entries = lookup? name entries' := by
  have distinct' : (entries'.map (·.1)).Nodup := (perm.map _).nodup_iff.1 distinct
  ext d
  rw [lookup?_eq_some_iff distinct, lookup?_eq_some_iff distinct', perm.mem_iff]

theorem occurrences_le_one (distinct : (entries.map (·.1)).Nodup) :
    occurrences name entries ≤ 1 := by
  have once := List.nodup_iff_count_le_one.1 distinct name
  rw [List.count_eq_countP, List.countP_map, List.countP_eq_length_filter] at once
  simpa only [occurrences, Function.comp_def, beq_eq_decide] using once

/-! ## Fields -/

variable {format : Format} {names : List String}

/-- The fields of a table whose names are distinct. -/
theorem fields?_table (distinct : (entries.map (·.1)).Nodup) :
    fields? format names (.table entries) = some (names.map fun name => lookup? name entries) := by
  rw [fields?, if_pos]
  simp [occurrences_le_one distinct]

/-- Tables with the same entries, in some order. -/
inductive Reorders : Document → Document → Prop
  | table {entries entries' : List (String × Document)} (perm : entries.Perm entries') :
      Reorders (.table entries) (.table entries')

/-- A table with a value for each name gives these values, whatever the order. -/
theorem fields?_of_reorders {d : Document} (distinct : names.Nodup) (values : List Document)
    (same : Reorders d (.table (names.zip values))) (aligned : names.length = values.length) :
    fields? format names d = some (values.map some) := by
  obtain ⟨perm⟩ := same
  have told : (names.zip values).map (·.1) = names := List.map_fst_zip (Nat.le_of_eq aligned)
  have once : ((names.zip values).map (·.1)).Nodup := by rwa [told]
  have found (name : String) : lookup? name (names.zip values) = lookup? name _ :=
    lookup?_perm perm.symm once
  rw [fields?_table ((perm.map _).nodup_iff.2 once)]
  simp only [← found]
  congr 1
  refine List.ext_getElem (by simpa using aligned) fun i below _ => ?_
  rw [List.length_map] at below
  rw [List.getElem_map, List.getElem_map, lookup?_eq_some_iff once,
    ← List.getElem_zip (h := by rw [List.length_zip]; omega)]
  exact List.getElem_mem _

/-! ## Single values -/

theorem asNatBelow?_natCast {n bound : Nat} (below : n < bound) :
    asNatBelow? bound (.integer n) = some n := by
  have inside : (0 : Int) ≤ n ∧ (n : Int) ≤ bound - 1 := by omega
  rw [asNatBelow?, asIntWithin?, asInt?, Option.bind_eq_bind, Option.bind_some, if_pos inside,
    Option.map_some, Int.toNat_natCast]

/-- A list is read if every item is. -/
theorem asListOf?_map {α : Type} {read : Document → Option α} (write : α → Document)
    (known : ∀ a, read (write a) = some a) (items : List α) :
    asListOf? read (.list (items.map write)) = some items := by
  have each : read ∘ write = fun a => pure a := funext known
  rw [asListOf?]
  change (items.map write).mapM read = some items
  rw [List.mapM_map, each, List.mapM_pure, List.map_id']
  rfl

/-- What may be missing is read from what it is written as. -/
theorem optional_map {α : Type} {read : Document → Option α} {write : α → Document}
    {positional : Bool} (known : ∀ a, read (write a) = some a) (told : ∀ a, write a ≠ .null)
    (given : Option α) :
    optional read positional (some ((given.map write).getD .null)) = some given := by
  cases given with
  | none => rfl
  | some a =>
    rw [Option.map_some, Option.getD_some, optional, asOption?.eq_def]
    split
    · next missing => exact absurd missing (told a)
    · rw [known, Option.map_some]

end Reachability.Document
