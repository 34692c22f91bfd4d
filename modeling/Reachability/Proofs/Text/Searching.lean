/-
# Texts that are found and replaced

A text is found in another one where it stands as a whole, and replaced where it is found from left
to right.  Here the search is told by prefixes and infixes of lists, and what replacing does by one
equation for a place where the text stands and one for a place where it does not.

Main results:

* `after?_eq_some_iff`, `isSome_after?_iff`, `occurs_iff` : what the search finds;
* `replaceAll_append`, `replaceAll_cons`, `replaceAll_append_of_not_mem` : what is replaced.
-/
import Mathlib.Data.List.Infix
import Reachability.Text.Split

namespace Reachability.Text

/-! ## Searching -/

theorem after?_eq_some_iff {needle cs rest : List Char} :
    after? needle cs = some rest ↔ cs = needle ++ rest := by
  induction needle generalizing cs with
  | nil =>
    rw [after?, Option.some.injEq]
    rfl
  | cons n needle ih =>
    cases cs with
    | nil => simp [after?]
    | cons c cs =>
      rw [after?]
      by_cases h : n = c
      · rw [if_pos h, ih, h]
        simp
      · rw [if_neg h]
        simp [Ne.symm h]

theorem isSome_after?_iff {needle cs : List Char} :
    (after? needle cs).isSome = true ↔ needle <+: cs := by
  rw [Option.isSome_iff_exists]
  simp only [after?_eq_some_iff]
  exact ⟨fun ⟨rest, h⟩ => ⟨rest, h.symm⟩, fun ⟨rest, h⟩ => ⟨rest, h.symm⟩⟩

theorem occurs_iff {needle cs : List Char} : occurs needle cs = true ↔ needle <:+: cs := by
  induction cs with
  | nil => rw [occurs, List.isEmpty_iff, List.infix_nil]
  | cons c cs ih =>
    rw [occurs, Bool.or_eq_true, isSome_after?_iff, ih, List.infix_cons_iff]

/-! ## Replacing -/

section Replacing

variable {needle replacement : List Char}

/-- What is still to be skipped is dropped. -/
theorem replaceAll_go (skip : Nat) (cs : List Char) :
    replaceAll.go needle replacement skip cs = replaceAll needle replacement (cs.drop skip) := by
  induction cs generalizing skip with
  | nil => cases skip <;> rfl
  | cons c cs ih =>
    cases skip with
    | zero => rfl
    | succ skip =>
      rw [replaceAll.go, ih]
      rfl

/-- Where the text stands it is replaced as a whole. -/
theorem replaceAll_append (h : needle ≠ []) (rest : List Char) :
    replaceAll needle replacement (needle ++ rest) =
      replacement ++ replaceAll needle replacement rest := by
  have here : (after? needle (needle ++ rest)).isSome = true :=
    isSome_after?_iff.2 (List.prefix_append needle rest)
  cases needle with
  | nil => exact absurd rfl h
  | cons n needle =>
    rw [List.cons_append] at here ⊢
    rw [replaceAll, replaceAll.go, here, replaceAll_go]
    simp

/-- Where it does not stand the character is kept. -/
theorem replaceAll_cons {c : Char} {cs : List Char} (h : ¬needle <+: c :: cs) :
    replaceAll needle replacement (c :: cs) = c :: replaceAll needle replacement cs := by
  have absent : (after? needle (c :: cs)).isSome = false := by
    rw [← Bool.not_eq_true, isSome_after?_iff]
    exact h
  rw [replaceAll, replaceAll.go, absent, Bool.and_false]
  rfl

/-- What is in front is kept if the first character of the text is not there. -/
theorem replaceAll_append_of_not_mem {c : Char} {front : List Char} (h : c ∉ front)
    (rest : List Char) : replaceAll (c :: needle) replacement (front ++ rest) =
      front ++ replaceAll (c :: needle) replacement rest := by
  induction front with
  | nil => rfl
  | cons d front ih =>
    rw [List.mem_cons, not_or] at h
    have absent : ¬c :: needle <+: d :: (front ++ rest) := fun here =>
      h.1 (List.cons_prefix_cons.1 here).1
    rw [List.cons_append, replaceAll_cons absent, ih h.2]
    rfl

end Replacing

end Reachability.Text
