/-
# Writing JSON

Documents as JSON text, on one line or indented by two spaces per level.  Of the characters
of a string only quotes, backslashes and control characters are escaped.

Main definitions:

* `Json.quote` : a string literal;
* `Json.compact`, `Json.pretty` : a document.
-/
import Reachability.Document.Basic

namespace Reachability.Json

/-! ## Scalars -/

/-- A small hexadecimal digit. -/
def hexDigit (n : Nat) : Char :=
  Char.ofNat (if n < 10 then 0x30 + n else 0x57 + n)

/-- A character inside a string literal. -/
def escape (c : Char) : List Char :=
  if c = '"' then ['\\', '"']
  else if c = '\\' then ['\\', '\\']
  else if c = '\x08' then ['\\', 'b']
  else if c = '\x0c' then ['\\', 'f']
  else if c = '\n' then ['\\', 'n']
  else if c = '\r' then ['\\', 'r']
  else if c = '\t' then ['\\', 't']
  else if c.toNat < 0x20 then
    ['\\', 'u', '0', '0', hexDigit (c.toNat / 16), hexDigit (c.toNat % 16)]
  else [c]

/-- A string literal. -/
def quote (s : String) : List Char :=
  '"' :: s.toList.flatMap escape ++ ['"']

/-- The form of numbers with an exponent: positional from five zeros after the point up to
sixteen digits before it. -/
def exponentForm : Decimal.ExponentForm :=
  { lowest := -4, highest := 16, plusSign := "", width := 1, pointAlways := false }

/-- A double; JSON has no infinities and no NaN. -/
def real (x : Binary64) : String :=
  if !x.isFinite then "null"
  else
    let sign := if x.isNegative then "-" else ""
    if x.isZero then sign ++ "0.0" else sign ++ exponentForm.write (Decimal.shortest x)

/-- A document that is no list and no table. -/
def scalar : Document → List Char
  | .null => "null".toList
  | .bool b => (if b then "true" else "false").toList
  | .integer i => (Decimal.ofInt i).toList
  | .real x => (real x).toList
  | .text s => quote s
  | .word s => quote s
  | _ => "null".toList

/-! ## Layouts -/

/-- Puts a separator between the pieces. -/
def separated (sep : List Char) : List (List Char) → List Char
  | [] => []
  | [piece] => piece
  | piece :: rest => piece ++ sep ++ separated sep rest

/-- A document on one line. -/
def compactChars : Document → List Char
  | .list items =>
      '[' :: separated [','] (items.attach.map fun ⟨d, _⟩ => compactChars d) ++ [']']
  | .table entries =>
      '\x7b' :: separated [',']
        (entries.attach.map fun ⟨e, _⟩ => quote e.1 ++ ':' :: compactChars e.2) ++ ['\x7d']
  | d => scalar d
termination_by d => sizeOf d
decreasing_by
  · have := List.sizeOf_lt_of_mem (by assumption)
    simp +arith
    omega
  · rename_i h
    have h1 := List.sizeOf_lt_of_mem h
    have h2 : sizeOf e.2 < sizeOf e := by cases e; simp +arith
    simp +arith
    omega

/-- A document on one line. -/
def compact (d : Document) : String := String.ofList (compactChars d)

/-- A line feed and the blanks of a level. -/
def newline (level : Nat) : List Char :=
  '\n' :: List.replicate (2 * level) ' '

/-- A document with each item and entry on a line of its own. -/
def prettyChars (level : Nat) : Document → List Char
  | .list items =>
      if items.isEmpty then "[]".toList
      else
        '[' :: newline (level + 1) ++
          separated (',' :: newline (level + 1))
            (items.attach.map fun ⟨d, _⟩ => prettyChars (level + 1) d) ++
          newline level ++ [']']
  | .table entries =>
      if entries.isEmpty then ['\x7b', '\x7d']
      else
        '\x7b' :: newline (level + 1) ++
          separated (',' :: newline (level + 1))
            (entries.attach.map fun ⟨e, _⟩ =>
              quote e.1 ++ ": ".toList ++ prettyChars (level + 1) e.2) ++
          newline level ++ ['\x7d']
  | d => scalar d
termination_by d => sizeOf d
decreasing_by
  · have := List.sizeOf_lt_of_mem (by assumption)
    simp +arith
    omega
  · rename_i h
    have h1 := List.sizeOf_lt_of_mem h
    have h2 : sizeOf e.2 < sizeOf e := by cases e; simp +arith
    simp +arith
    omega

/-- A document with each item and entry on a line of its own. -/
def pretty (d : Document) : String := String.ofList (prettyChars 0 d)

end Reachability.Json
