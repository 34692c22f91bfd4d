/-
# Printed JSON

A document that is printed with each item and entry on a line of its own is a text of the grammar,
and reads back.  Doubles are left out: they are printed with the fewest digits, and read in steps
that round.

Main definitions:

* `Json.IsExact` : the documents that JSON tells exactly.

Main results:

* `spells_prettyChars` : the lines of a document are the document;
* `read?_pretty`, `read?_pretty_append` : the whole text is read as the document.
-/
import Mathlib.Data.List.Basic
import Reachability.Proofs.Document.Json.Grammar

namespace Reachability.Json

open Document

/-! ## Exact documents -/

/-- The documents that JSON tells exactly: their numbers are integers of 64 bits, with a sign or
without. -/
inductive IsExact : Document → Prop
  | null : IsExact .null
  | bool (b : Bool) : IsExact (.bool b)
  | integer {i : Int} (low : Int64.minValue.toInt ≤ i) (high : i < UInt64.size) :
      IsExact (.integer i)
  | text (s : String) : IsExact (.text s)
  | list {items : List Document} (inner : ∀ d ∈ items, IsExact d) : IsExact (.list items)
  | table {entries : List (String × Document)} (inner : ∀ e ∈ entries, IsExact e.2) :
      IsExact (.table entries)

/-- The entries of a table one by one. -/
theorem IsExact.of_forall {entries : List (String × Document)}
    (each : entries.Forall fun e => IsExact e.2) : IsExact (.table entries) :=
  .table (List.forall_iff_forall_mem.1 each)

theorem IsExact.natCast {n : Nat} (small : n < UInt64.size) : IsExact (.integer n) :=
  .integer (Int.le_trans (by decide) (Int.natCast_nonneg n)) (Int.ofNat_lt.2 small)

/-! ## Lines of a document -/

theorem isMargin_newline (level : Nat) : IsMargin (newline level) := by
  intro c there
  rw [newline, List.mem_cons, List.mem_replicate] at there
  rcases there with rfl | ⟨-, rfl⟩ <;> rfl

/-- What stands in front of every piece belongs to the separator. -/
theorem separated_map_append (margin : List Char) {texts : List (List Char)}
    (filled : texts ≠ []) : separated [','] (texts.map (margin ++ ·)) =
      margin ++ separated (',' :: margin) texts := by
  induction texts with
  | nil => exact absurd rfl filled
  | cons text texts ih =>
    by_cases last : texts = []
    · subst last
      rfl
    · rw [List.map_cons, separated_cons (by simpa using last), separated_cons last, ih last]
      simp

theorem prettyChars_list (level : Nat) {items : List Document} (filled : items ≠ []) :
    prettyChars level (.list items) = '[' :: (newline (level + 1) ++
      (separated (',' :: newline (level + 1)) (items.map (prettyChars (level + 1))) ++
        (newline level ++ [']']))) := by
  rw [prettyChars, if_neg (by simpa using filled)]
  simp

theorem prettyChars_table (level : Nat) {entries : List (String × Document)}
    (filled : entries ≠ []) :
    prettyChars level (.table entries) = '\x7b' :: (newline (level + 1) ++
      (separated (',' :: newline (level + 1))
        (entries.map fun e => quote e.1 ++ (':' :: ' ' :: prettyChars (level + 1) e.2)) ++
        (newline level ++ ['\x7d']))) := by
  have unbound := List.attach_map_val (l := entries)
    (f := fun e => quote e.1 ++ (':' :: ' ' :: prettyChars (level + 1) e.2))
  rw [prettyChars, if_neg (by simpa using filled)]
  simp [← unbound]

/-- An item on a line of its own. -/
def lineOf (level : Nat) (d : Document) : Piece where
  front := newline level
  text := prettyChars level d
  back := []
  value := d
  isFront := isMargin_newline level
  isBack := isMargin_nil

/-- An entry on a line of its own. -/
def entryLineOf (level : Nat) (e : String × Document) : Member where
  front := newline level
  body := e.1.toList.flatMap escape
  symbols := e.1.toList.map symbolOf
  gap := []
  item := { lineOf level e.2 with
    front := [' ']
    isFront := by decide }
  isFront := isMargin_newline level
  isGap := isMargin_nil
  quoted := quotes_escape e.1.toList

theorem separated_lines (level : Nat) {items : List Document} (filled : items ≠ []) :
    separated [','] ((items.map (lineOf level)).map Piece.written) =
      newline level ++ separated (',' :: newline level) (items.map (prettyChars level)) := by
  rw [← separated_map_append _ (by simpa using filled), List.map_map, List.map_map]
  simp [Function.comp_def, lineOf, Piece.written]

theorem separated_entryLines (level : Nat) {entries : List (String × Document)}
    (filled : entries ≠ []) :
    separated [','] ((entries.map (entryLineOf level)).map Member.written) =
      newline level ++ separated (',' :: newline level)
        (entries.map fun e => quote e.1 ++ (':' :: ' ' :: prettyChars level e.2)) := by
  rw [← separated_map_append _ (by simpa using filled), List.map_map, List.map_map]
  simp [Function.comp_def, entryLineOf, lineOf, Member.written, Piece.written, quote]

theorem tableOf_entryLines (level : Nat) (entries : List (String × Document)) :
    tableOf (entries.map (entryLineOf level)) = .table entries := by
  have named : Member.named? ∘ entryLineOf level = fun e => pure e := by
    funext e
    simp [Member.named?, entryLineOf, lineOf, characters?_map_symbolOf]
  rw [tableOf, List.mapM_map, named, List.mapM_pure, List.map_id']
  rfl

theorem stringOf_symbolOf (s : String) : stringOf (s.toList.map symbolOf) = .text s := by
  simp [stringOf, characters?_map_symbolOf]

/-- **Printed documents are texts.**  The lines of a document that JSON tells exactly are this
document in the grammar, at every level. -/
theorem spells_prettyChars {d : Document} (exact : IsExact d) (level : Nat) :
    Spells (prettyChars level d) d := by
  induction exact generalizing level with
  | null =>
    rw [prettyChars]
    · exact .null
    all_goals simp
  | bool b =>
    rw [prettyChars]
    · exact .bool b
    all_goals simp
  | integer low high =>
    rw [prettyChars]
    · rw [scalar, ← Numeral.text_ofInt, ← Numeral.document_ofInt low high]
      exact .number _
    all_goals simp
  | text s =>
    rw [prettyChars]
    · rw [scalar, quote, ← stringOf_symbolOf]
      exact .string (quotes_escape s.toList)
    all_goals simp
  | @list items inner ih =>
    by_cases empty : items = []
    · subst empty
      rw [prettyChars]
      exact @Spells.list [] [] isMargin_nil (by simp)
    · have spelled := Spells.list (isMargin_newline level)
        (List.forall_mem_map.2 fun d there => ih d there (level + 1) :
          ∀ p ∈ items.map (lineOf (level + 1)), Spells p.text p.value)
      rw [separated_lines _ empty, List.append_assoc, ← prettyChars_list level empty] at spelled
      simpa [Function.comp_def, lineOf] using spelled
  | @table entries inner ih =>
    by_cases empty : entries = []
    · subst empty
      rw [prettyChars]
      exact @Spells.table [] [] isMargin_nil (by simp)
    · have spelled := Spells.table (isMargin_newline level)
        (List.forall_mem_map.2 fun e there => ih e there (level + 1) :
          ∀ m ∈ entries.map (entryLineOf (level + 1)), Spells m.item.text m.item.value)
      rwa [separated_entryLines _ empty, List.append_assoc, ← prettyChars_table level empty,
        tableOf_entryLines] at spelled

/-- A document that JSON tells exactly is read from its own text, with white space behind it or
without. -/
theorem read?_pretty_append {d : Document} (exact : IsExact d) {margin : List Char}
    (blank : IsMargin margin) : read? (pretty d ++ String.ofList margin) = some d := by
  rw [pretty, ← String.ofList_append]
  exact read?_of_isText ⟨⟨[], prettyChars 0 d, margin, d, isMargin_nil, blank⟩,
    spells_prettyChars exact 0, by simp [Piece.written], rfl⟩

theorem read?_pretty {d : Document} (exact : IsExact d) : read? (pretty d) = some d := by
  have read := read?_pretty_append exact isMargin_nil
  rwa [String.ofList_nil, String.append_empty] at read

end Reachability.Json
