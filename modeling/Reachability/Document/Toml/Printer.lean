/-
# Printing TOML

Every table stands under its header, its single values before its tables.  A list of more
than one value has a line for each.

Main definitions:

* `Toml.quoted` : a text as a string, in the form that needs the fewest escapes;
* `Toml.print?` : a table as a text, unless an integer is too large.
-/
import Reachability.Document.Toml.Scalar

namespace Reachability.Toml

/-! ## Strings -/

/-- The length of the longest run of a character. -/
def longestRun (c : Char) (cs : List Char) : Nat :=
  (cs.foldl (fun (best, run) d =>
    let run := if d = c then run + 1 else 0
    (max best run, run)) (0, 0)).1

/-- Characters that can stand in a string only as an escape. -/
def needsEscape (c : Char) : Bool :=
  (c.toNat < 0x20 && c ≠ '\t' && c ≠ '\n') || c.toNat = 0x7f

/-- A hexadecimal number of four digits. -/
def fourHex (n : Nat) : List Char :=
  [n / 4096 % 16, n / 256 % 16, n / 16 % 16, n % 16].map Percent.hexDigit

/-- A character of a string with escapes; a line end stands for itself in a string of
several lines. -/
def escaped (severalLines : Bool) (c : Char) : List Char :=
  if c = '\x08' then ['\\', 'b']
  else if c = '\t' then ['\\', 't']
  else if c = '\n' then if severalLines then ['\n'] else ['\\', 'n']
  else if c = '\x0c' then ['\\', 'f']
  else if c = '\r' then ['\\', 'r']
  else if c = '\\' then ['\\', '\\']
  else if c.toNat < 0x20 || c.toNat = 0x7f then '\\' :: 'u' :: fourHex c.toNat
  else [c]

/-- The text of a string with escapes.  Quotes are escaped from the first one that, with
those right before it, would be more than `allowed`. -/
def escapedText (severalLines : Bool) (allowed : Nat) : Nat → List Char → List Char
  | _, [] => []
  | run, c :: cs =>
      if c = '"' then
        if allowed < run + 1 then '\\' :: '"' :: escapedText severalLines allowed 0 cs
        else '"' :: escapedText severalLines allowed (run + 1) cs
      else escaped severalLines c ++ escapedText severalLines allowed 0 cs

/-- A text as a string: plain quotes if nothing has to be escaped, else single quotes, else
three quotes, else escapes. -/
def quoted (s : String) : String :=
  let cs := s.toList
  let control := cs.any needsEscape
  let backslash := cs.contains '\\'
  let newline := cs.contains '\n'
  let start := if newline then "\n" else ""
  if !control && !backslash && !cs.contains '"' && !newline then
    "\"" ++ String.ofList (escapedText false 0 0 cs) ++ "\""
  else if !control && !cs.contains '\'' && !newline then "'" ++ s ++ "'"
  else if !control && !backslash && longestRun '"' cs ≤ 2 then
    "\"\"\"" ++ start ++ String.ofList (escapedText true 2 0 cs) ++ "\"\"\""
  else if !control && longestRun '\'' cs ≤ 2 then "'''" ++ start ++ s ++ "'''"
  else if newline then
    "\"\"\"" ++ start ++ String.ofList (escapedText true 2 0 cs) ++ "\"\"\""
  else "\"" ++ String.ofList (escapedText false 0 0 cs) ++ "\""

/-- A key, unquoted if it can be. -/
def keyText (name : String) : String :=
  if !name.isEmpty && name.toList.all isBareKey then name else quoted name

/-! ## Values -/

/-- A double; a whole one ends in `.0`. -/
def realText (x : Binary64) : String :=
  if x.isNaN then "nan"
  else
    let s := Decimal.plain x
    if !x.isFinite || s.toList.contains '.' then s else s ++ ".0"

/-- A value on one line; a list of more than one item has a line for each. -/
def valueText? : Document → Option String
  | .bool b => some (if b then "true" else "false")
  | .integer i =>
      if Int64.minValue.toInt ≤ i ∧ i ≤ Int64.maxValue.toInt then some (Decimal.ofInt i) else none
  | .real x => some (realText x)
  | .text s => some (quoted s)
  | .word s => some (quoted s)
  | .list items => do
      let texts ← items.attach.mapM fun ⟨d, _⟩ => valueText? d
      match texts with
      | [] => return "[]"
      | [one] => return "[" ++ one ++ "]"
      | _ => return "[\n" ++ String.join (texts.map fun t => "    " ++ t ++ ",\n") ++ "]"
  | _ => none

/-! ## Tables -/

/-- Whether a value has a header of its own. -/
def isTable : Document → Bool
  | .table _ => true
  | _ => false

/-- The header and the lines of a table with those of the tables in it.  A table that holds
nothing but tables has no header. -/
def sections? (path : List String) : Document → Option (List String)
  | .table entries => do
      let plain := entries.filter fun e => !isTable e.2
      let lines ← plain.mapM fun (name, d) => do
        return keyText name ++ " = " ++ (← valueText? d) ++ "\n"
      let own :=
        if path.isEmpty then if lines.isEmpty then [] else [String.join lines]
        else if lines.isEmpty && !entries.isEmpty then []
        else ["[" ++ ".".intercalate (path.map keyText) ++ "]\n" ++ String.join lines]
      let inner ← entries.attach.mapM fun ⟨e, _⟩ => sections? (path ++ [e.1]) e.2
      return own ++ inner.flatten
  | _ => some []
decreasing_by
  rename_i h
  have := List.sizeOf_lt_of_mem h
  obtain ⟨a, b⟩ := e
  simp_wf
  simp at this
  omega

/-- A table as a text, an empty line before each header but the first line. -/
def print? (d : Document) : Option String := do
  return "\n".intercalate (← sections? [] d)

end Reachability.Toml
