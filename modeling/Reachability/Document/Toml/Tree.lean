/-
# Tables under construction

The tables of a TOML text are given piece by piece.  How a table came to be decides what may
still be added to it: one that was only named on the way to another may be given later, one
that was given may not be given again, and one that dotted keys built is open to dotted keys
only.

Main definitions:

* `Toml.Tree`, `Toml.Entries` : values and tables under construction;
* `Toml.put?` : adds a value under a key;
* `Toml.openTable?`, `Toml.openItem?` : start a table, and the next item of a list of tables;
* `Toml.Tree.finish` : the document.
-/
import Reachability.Document.Basic

namespace Reachability.Toml

/-- How a table came to be. -/
inductive Origin
  /-- It was given by its header. -/
  | given
  /-- It was named on the way to another table. -/
  | named
  /-- It was built by dotted keys. -/
  | dotted
deriving DecidableEq, Repr

/-- A value or a table under construction. -/
inductive Tree
  | value (d : Document)
  | table (origin : Origin) (entries : List (String × Tree))
  /-- A list of tables, the last of which is open. -/
  | tables (closed : List Document) (last : List (String × Tree))

/-- The entries of a table under construction, in order. -/
abbrev Entries := List (String × Tree)

/-- Puts an entry in the place of the one with its name, or at the end. -/
def Entries.set (name : String) (t : Tree) : Entries → Entries
  | [] => [(name, t)]
  | (n, u) :: rest => if n = name then (n, t) :: rest else (n, u) :: set name t rest

/-! ## Documents -/

/-- The document of a finished tree. -/
def Tree.finish : Tree → Document
  | value d => d
  | table _ entries => .table (entries.attach.map fun ⟨e, _⟩ => (e.1, e.2.finish))
  | tables closed last =>
      .list (closed ++ [.table (last.attach.map fun ⟨e, _⟩ => (e.1, e.2.finish))])
decreasing_by
  all_goals
    rename_i h
    have := List.sizeOf_lt_of_mem h
    obtain ⟨a, b⟩ := e
    simp_wf
    simp at this
    omega

/-- The document of finished entries. -/
def Entries.finish (entries : Entries) : Document :=
  .table (entries.map fun e => (e.1, e.2.finish))

/-! ## Adding -/

/-- Adds a value under a key of one or more parts.  The value of a dotted key goes to a table
that dotted keys built, and that of a plain key to one that they did not; a name that is
there is not given again. -/
def put? (viaDots isDotted : Bool) (entries : Entries) : List String → Document → Option Entries
  | [], _ => none
  | [name], d =>
      if isDotted ≠ viaDots || (entries.lookup name).isSome then none
      else some (entries ++ [(name, .value d)])
  | name :: more, d =>
      match entries.lookup name with
      | none => do
          return entries ++ [(name, .table .dotted (← put? true true [] more d))]
      | some (.table .given _) => none
      | some (.table origin inner) => do
          let inner ← put? true (origin = .dotted) inner more d
          return entries.set name (.table origin inner)
      | some (.tables closed last) => do
          return entries.set name (.tables closed (← put? true false last more d))
      | some (.value _) => none

/-- Changes the table at a path, which may go through the last items of lists of tables.
Tables on the way that are not there are named. -/
def change? (f : Entries → Option Entries) (entries : Entries) : List String → Option Entries
  | [] => f entries
  | name :: more =>
      match entries.lookup name with
      | none => do return entries ++ [(name, .table .named (← change? f [] more))]
      | some (.table origin inner) => do
          return entries.set name (.table origin (← change? f inner more))
      | some (.tables closed last) => do
          return entries.set name (.tables closed (← change? f last more))
      | some (.value _) => none

/-- Gives the table with a name, which may have been named before. -/
def giveTable? (name : String) (entries : Entries) : Option Entries :=
  match entries.lookup name with
  | none => some (entries ++ [(name, .table .given [])])
  | some (.table .named inner) => some (entries.set name (.table .given inner))
  | _ => none

/-- Starts the next item of the list of tables with a name. -/
def giveItem? (name : String) (entries : Entries) : Option Entries :=
  match entries.lookup name with
  | none => some (entries ++ [(name, .tables [] [])])
  | some (.tables closed last) =>
      some (entries.set name (.tables (closed ++ [Entries.finish last]) []))
  | _ => none

/-- Starts the table at a path. -/
def openTable? (root : Entries) (path : List String) : Option Entries :=
  match path.getLast? with
  | some name => change? (giveTable? name) root path.dropLast
  | none => none

/-- Starts the next item of the list of tables at a path. -/
def openItem? (root : Entries) (path : List String) : Option Entries :=
  match path.getLast? with
  | some name => change? (giveItem? name) root path.dropLast
  | none => none

end Reachability.Toml
