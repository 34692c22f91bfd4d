/-
# Cutting texts apart

Lines, fields between separators, and cuts at the first or last separator, all on lists: of
characters for the most part, and of bytes where fields and cuts are.

Main definitions:

* `Text.fields` : the pieces between the occurrences of a separator, always at least one;
* `Text.words` : the pieces between blanks;
* `Text.cutFirst?`, `Text.cutLast?` : the texts before and after one separator;
* `Text.lines` : the lines of a text.
-/

namespace Reachability.Text

/-! ## Fields -/

section Pieces

variable {α : Type} [DecidableEq α]

/-- The pieces between the separators: one more than there are separators. -/
def fields (sep : α) : List α → List (List α)
  | [] => [[]]
  | c :: cs =>
      if c = sep then [] :: fields sep cs
      else match fields sep cs with
        | [] => [[c]]
        | f :: fs => (c :: f) :: fs

/-- The texts before and after the first separator. -/
def cutFirst? (sep : α) : List α → Option (List α × List α)
  | [] => none
  | c :: cs =>
      if c = sep then some ([], cs)
      else (cutFirst? sep cs).map fun (before, after) => (c :: before, after)

/-- The texts before and after the last separator. -/
def cutLast? (sep : α) (cs : List α) : Option (List α × List α) :=
  (cutFirst? sep cs.reverse).map fun (after, before) => (before.reverse, after.reverse)

end Pieces

/-- The pieces between blanks and line feeds; none is empty. -/
def words (cs : List Char) : List (List Char) :=
  (fields ' ' (cs.map fun c => if c = '\n' then ' ' else c)).filter (!·.isEmpty)

/-- The text after the last character that satisfies `p`, or all of it. -/
def afterLast (p : Char → Bool) (cs : List Char) : List Char :=
  (cs.reverse.takeWhile fun c => !p c).reverse

/-! ## Lines -/

/-- A line end may be written with a carriage return before the line feed. -/
def dropReturn (line : List Char) : List Char :=
  match line.reverse with
  | '\r' :: rest => rest.reverse
  | _ => line

/-- The lines of a text: what stands between line feeds, each without its carriage
return.  The text after the last line feed is a line only if it is not empty, and
keeps a carriage return. -/
def lines (cs : List Char) : List (List Char) :=
  let pieces := fields '\n' cs
  let last := pieces.getLastD []
  pieces.dropLast.map dropReturn ++ (if last.isEmpty then [] else [last])

/-! ## Searching -/

/-- Whether `needle` stands at the start; if so, what follows it. -/
def after? (needle : List Char) (cs : List Char) : Option (List Char) :=
  match needle, cs with
  | [], rest => some rest
  | n :: ns, c :: rest => if n = c then after? ns rest else none
  | _ :: _, [] => none

/-- Whether `needle` occurs somewhere. -/
def occurs (needle : List Char) : List Char → Bool
  | [] => needle.isEmpty
  | c :: cs => (after? needle (c :: cs)).isSome || occurs needle cs

/-- Replaces every occurrence of a non-empty `needle`, from left to right and without
looking into inserted text again. -/
def replaceAll (needle replacement : List Char) (cs : List Char) : List Char :=
  go 0 cs
where
  /-- Reads on, with `skip` characters of the last occurrence still to drop. -/
  go : Nat → List Char → List Char
    | _, [] => []
    | skip + 1, _ :: cs => go skip cs
    | 0, c :: cs =>
        if !needle.isEmpty && (after? needle (c :: cs)).isSome then
          replacement ++ go (needle.length - 1) cs
        else c :: go 0 cs

end Reachability.Text
