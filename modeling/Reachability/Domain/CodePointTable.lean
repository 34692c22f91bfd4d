/-
# Tables of characters

Properties of characters as they come in standards: ranges of code points with some numbers
that belong to each.  A table is written as words; a word names a range in hexadecimal,
`first-last`, or every other code point of one, `first~last`, or a single one, and behind an
equals sign the numbers, joined by plus signs.

Main definitions:

* `CodePointTable.ofText` : the table that a text is;
* `CodePointTable.find?` : the entry of a code point.
-/
import Reachability.Text.Percent
import Reachability.Text.Split

namespace Reachability

/-- A range of code points with the numbers that belong to it. -/
structure CodePointTable.Entry where
  first : Nat
  last : Nat
  /-- The distance between the code points that are meant. -/
  step : Nat
  values : List Nat
deriving Repr

/-- Entries in ascending order that do not overlap. -/
structure CodePointTable where
  entries : Array CodePointTable.Entry

namespace CodePointTable

/-! ## Reading -/

/-- The number of hexadecimal digits. -/
def hexNumber (cs : List Char) : Nat :=
  cs.foldl (fun n c => n * 16 + (Percent.hexValue? c).getD 0) 0

/-- The entry that a word is. -/
def Entry.ofChars (cs : List Char) : Entry :=
  let (range, values) := (Text.cutFirst? '=' cs).getD (cs, [])
  let (first, last, step) := match Text.cutFirst? '-' range, Text.cutFirst? '~' range with
    | some (a, b), _ => (a, b, 1)
    | none, some (a, b) => (a, b, 2)
    | none, none => (range, range, 1)
  { first := hexNumber first, last := hexNumber last, step
    values := if values.isEmpty then [] else (Text.fields '+' values).map hexNumber }

/-- The table that a text is. -/
def ofText (text : String) : CodePointTable :=
  ⟨((Text.words text.toList).map Entry.ofChars).toArray⟩

/-! ## Looking up -/

/-- Whether an entry is about a code point. -/
def Entry.covers (e : Entry) (n : Nat) : Bool :=
  e.first ≤ n && n ≤ e.last && (n - e.first) % e.step == 0

/-- Halves the entries from `low` up to `high` until one is left. -/
def search (t : CodePointTable) (n low high : Nat) : Option Entry :=
  if high ≤ low + 1 then
    (t.entries[low]?).filter fun e => e.covers n
  else
    let middle := (low + high) / 2
    match t.entries[middle]? with
    | some e => if n < e.first then search t n low middle else search t n middle high
    | none => none
termination_by high - low

/-- The entry of a code point. -/
def find? (t : CodePointTable) (n : Nat) : Option Entry := t.search n 0 t.entries.size

/-- Whether a code point has an entry. -/
def contains (t : CodePointTable) (n : Nat) : Bool := (t.find? n).isSome

end CodePointTable
end Reachability
