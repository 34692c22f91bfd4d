/-
# Documents

The values that a configuration file or a report holds, whatever its format: JSON, TOML or
YAML.  A reader turns text into a document, a printer a document into text; between them,
records are taken out of documents by `Document.fields?` and its companions.

Main definitions:

* `Document` : the values;
* `Document.Format` : the formats, which differ in what a record may be read from;
* `Document.asBool?`, `Document.asInt?`, `Document.asText?` : single values;
* `Document.fields?` : the fields of a record, by name or by position.
-/
import Reachability.Document.Word

namespace Reachability

/-- A value of a document. -/
inductive Document
  | null
  | bool (b : Bool)
  | integer (i : Int)
  | real (x : Binary64)
  | text (s : String)
  /-- An unquoted word, whose type depends on what it is read as. -/
  | word (s : String)
  | list (items : List Document)
  | table (entries : List (String × Document))
  /-- A value that its format allows and that nothing can be read from: an unpaired
  surrogate, a number beyond all doubles, a date, a name with a tag. -/
  | unreadable
deriving Repr, Inhabited

namespace Document

/-- The formats that documents are read from. -/
inductive Format
  | json
  | toml
  | yaml
deriving DecidableEq, Repr

/-! ## Single values -/

/-- The truth value that a document is. -/
def asBool? : Document → Option Bool
  | bool b => some b
  | word w => Word.bool? w
  | _ => none

/-- The integer that a document is. -/
def asInt? : Document → Option Int
  | integer i => some i
  | word w => Word.int? w
  | _ => none

/-- The integer that a document is, if it lies between the bounds. -/
def asIntWithin? (low high : Int) (d : Document) : Option Int := do
  let i ← d.asInt?
  if low ≤ i ∧ i ≤ high then some i else none

/-- The natural number that a document is, if it lies below the bound. -/
def asNatBelow? (bound : Nat) (d : Document) : Option Nat :=
  (d.asIntWithin? 0 ((bound : Int) - 1)).map Int.toNat

/-- The number that a document is, rounded to a double if it is whole. -/
def asReal? : Document → Option Binary64
  | integer i => some (Binary64.ofInt i)
  | real x => some x
  | _ => none

/-- The text that a document is.  A word that is a number is no text. -/
def asText? : Document → Option String
  | text s => some s
  | word w => if Word.isNumber w then none else some w
  | _ => none

/-- The items of a list; an empty word stands for no items. -/
def asList? : Document → Option (List Document)
  | list items => some items
  | word "" => some []
  | _ => none

/-- Reads every item of a list. -/
def asListOf? {α : Type} (read : Document → Option α) (d : Document) : Option (List α) := do
  (← d.asList?).mapM read

/-- Nothing, or what is read. -/
def asOption? {α : Type} (read : Document → Option α) : Document → Option (Option α)
  | null => some none
  | d => (read d).map some

/-! ## Tables -/

/-- The value of the last entry with a name. -/
def lookup? (name : String) (entries : List (String × Document)) : Option Document :=
  (entries.reverse.find? (·.1 = name)).map (·.2)

/-- The value that a table holds under a name. -/
def get? (name : String) : Document → Option Document
  | table entries => lookup? name entries
  | _ => none

/-- How often a name occurs among the entries. -/
def occurrences (name : String) (entries : List (String × Document)) : Nat :=
  (entries.filter (·.1 = name)).length

/-! ## Records -/

/-- The values of a record's fields in the order of the fields, `none` for one that is not
given.  A record is a table, in which unknown names are skipped and no known one may stand
twice, or a list, which may be shorter than the record but not longer; YAML has no lists
for records.  An empty word stands for an empty table. -/
def fields? (format : Format) (names : List String) : Document → Option (List (Option Document))
  | table entries =>
      if names.all fun name => occurrences name entries ≤ 1 then
        some (names.map fun name => lookup? name entries)
      else none
  | list items =>
      if format = .yaml ∨ names.length < items.length then none
      else some (items.map some ++ List.replicate (names.length - items.length) none)
  | word "" => some (names.map fun _ => none)
  | _ => none

/-- Whether a table has no other entries than the named ones. -/
def hasOnly (names : List String) : Document → Bool
  | table entries => entries.all fun entry => names.contains entry.1
  | _ => true

/-- Whether a document gives a record by position. -/
def isPositional : Document → Bool
  | list _ => true
  | _ => false

/-- A field that has to be given. -/
def required {α : Type} (read : Document → Option α) (field : Option Document) : Option α :=
  field.bind read

/-- A field with a default. -/
def withDefault {α : Type} (read : Document → Option α) (fallback : α)
    (field : Option Document) : Option α :=
  match field with
  | none => some fallback
  | some d => read d

/-- A field that may be left out by name. -/
def optional {α : Type} (read : Document → Option α) (positional : Bool)
    (field : Option Document) : Option (Option α) :=
  match field with
  | none => if positional then none else some none
  | some d => d.asOption? read

/-! ## Names out of a fixed choice -/

/-- A name out of a fixed choice: a text, or a table whose only entry has that name and
holds nothing. -/
def asName? (format : Format) : Document → Option String
  | text s => some s
  | word w => some w
  | table [(name, content)] =>
      match format, content with
      | .json, null => some name
      | .toml, table [] => some name
      | .toml, list [] => some name
      | _, _ => none
  | _ => none

/-- A value out of a fixed choice, by its name. -/
def asChoice? {α : Type} (format : Format) (choices : List α) (nameOf : α → String)
    (d : Document) : Option α := do
  let name ← d.asName? format
  choices.find? fun choice => nameOf choice = name

end Document
end Reachability
