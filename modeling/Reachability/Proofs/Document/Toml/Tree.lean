/-
# Growing trees

Tables are built entry by entry, each at the path of the table that it belongs to.  What changes
one table can be said of this table alone, whatever stands around it, and a document that is built
one entry after the other, values before tables, is the document with its values put first.

Main definitions:

* `Toml.append?` : adds an entry whose name is not there;
* `Tree.ofDocument` : what a document is built to.

Main results:

* `change?_append`, `change?_bind` : changes below a path, and one after the other;
* `exists_opened`, `foldlM_named` : a table is built by opening it, if it is given, and adding its
  entries;
* `reorders_finish_ofDocument` : what was built has the entries of the document.
-/
import Reachability.Document.Toml.Printer
import Reachability.Document.Toml.Tree
import Reachability.Proofs.Document.Record

namespace Reachability.Toml

/-! ## Entries -/

section Entries

variable {entries : Entries} {name : String} {t u : Tree}

theorem lookup_concat (absent : entries.lookup name = none) :
    (entries ++ [(name, t)]).lookup name = some t := by
  rw [List.lookup_append, absent]
  simp

theorem set_concat (absent : entries.lookup name = none) :
    Entries.set name t (entries ++ [(name, u)]) = entries ++ [(name, t)] := by
  induction entries with
  | nil => simp [Entries.set]
  | cons e entries ih =>
    obtain ⟨n, v⟩ := e
    have other : name ≠ n := by
      rintro rfl
      simp at absent
    rw [List.lookup_cons, beq_false_of_ne other] at absent
    rw [List.cons_append, Entries.set, if_neg other.symm, ih absent, List.cons_append]

theorem lookup_set (present : entries.lookup name = some u) :
    (Entries.set name t entries).lookup name = some t := by
  induction entries with
  | nil => cases present
  | cons e entries ih =>
    obtain ⟨n, v⟩ := e
    rw [Entries.set]
    split
    case isTrue same => simp [same]
    case isFalse other =>
      rw [List.lookup_cons, beq_false_of_ne (Ne.symm other)] at present ⊢
      exact ih present

theorem set_set : Entries.set name t (Entries.set name u entries) = Entries.set name t entries := by
  induction entries with
  | nil => simp [Entries.set]
  | cons e entries ih =>
    obtain ⟨n, v⟩ := e
    by_cases same : n = name <;> simp [Entries.set, same, ih]

end Entries

/-! ## One step of a path -/

/-- The table that a name leads to, and the way to put another one in its place.  A table that is
not there is named. -/
def focus? (name : String) (entries : Entries) : Option (Entries × (Entries → Entries)) :=
  match entries.lookup name with
  | none => some ([], fun inner => entries ++ [(name, .table .named inner)])
  | some (.table origin inner) =>
      some (inner, fun inner => entries.set name (.table origin inner))
  | some (.tables closed last) => some (last, fun last => entries.set name (.tables closed last))
  | some (.value _) => none

theorem change?_cons (f : Entries → Option Entries) (entries : Entries) (name : String)
    (path : List String) :
    change? f entries (name :: path) =
      (focus? name entries).bind fun (inner, put) => (change? f inner path).map put := by
  rw [change?, focus?]
  cases entries.lookup name with
  | none => exact (Option.map_eq_bind ..).symm
  | some t =>
    cases t with
    | value d => rfl
    | table origin inner => exact (Option.map_eq_bind ..).symm
    | tables closed last => exact (Option.map_eq_bind ..).symm

/-- The name leads to what was put there, and to the same place. -/
theorem focus?_put {name : String} {entries inner : Entries} {put : Entries → Entries}
    (led : focus? name entries = some (inner, put)) (inner' : Entries) :
    focus? name (put inner') = some (inner', put) := by
  rw [focus?] at led
  cases found : entries.lookup name with
  | none =>
    rw [found] at led
    obtain ⟨rfl, rfl⟩ := Prod.mk.inj (Option.some.inj led)
    simp [focus?, lookup_concat found, set_concat found]
  | some t =>
    rw [found] at led
    cases t with
    | value d => cases led
    | table origin content =>
      obtain ⟨rfl, rfl⟩ := Prod.mk.inj (Option.some.inj led)
      simp [focus?, lookup_set found, set_set]
    | tables closed last =>
      obtain ⟨rfl, rfl⟩ := Prod.mk.inj (Option.some.inj led)
      simp [focus?, lookup_set found, set_set]

/-! ## Changes -/

/-- A change at the end of a path, seen from a table on the way. -/
theorem change?_append (f : Entries → Option Entries) (entries : Entries)
    (path more : List String) :
    change? f entries (path ++ more) =
      change? (fun inner => change? f inner more) entries path := by
  induction path generalizing entries with
  | nil => rfl
  | cons name path ih => simp only [List.cons_append, change?_cons, ih]

/-- Two changes of one table, one after the other. -/
theorem change?_bind (f g : Entries → Option Entries) (entries : Entries) (path : List String) :
    (change? f entries path).bind (change? g · path) =
      change? (fun inner => (f inner).bind g) entries path := by
  induction path generalizing entries with
  | nil => rfl
  | cons name path ih =>
    simp only [change?_cons]
    cases led : focus? name entries with
    | none => rfl
    | some place =>
      obtain ⟨inner, put⟩ := place
      simp only [Option.bind_some, ← ih, Option.bind_map, Option.map_bind, Function.comp_def,
        focus?_put led]

/-- A change that does more than another one. -/
theorem change?_mono {f g : Entries → Option Entries}
    (more : ∀ inner inner', f inner = some inner' → g inner = some inner')
    {entries entries' : Entries} {path : List String}
    (changed : change? f entries path = some entries') :
    change? g entries path = some entries' := by
  induction path generalizing entries entries' with
  | nil => exact more _ _ changed
  | cons name path ih =>
    rw [change?_cons] at changed ⊢
    obtain ⟨⟨inner, put⟩, led, changed⟩ := Option.bind_eq_some_iff.1 changed
    obtain ⟨inner', below, rfl⟩ := Option.map_eq_some_iff.1 changed
    simp only [led, Option.bind_some, ih below, Option.map_some]

/-! ## Adding entries -/

/-- Adds an entry whose name is not there. -/
def append? (entry : String × Tree) (entries : Entries) : Option Entries :=
  if (entries.lookup entry.1).isSome then none else some (entries ++ [entry])

theorem append?_eq_some_iff {entry : String × Tree} {entries entries' : Entries} :
    append? entry entries = some entries' ↔
      entries.lookup entry.1 = none ∧ entries' = entries ++ [entry] := by
  rw [append?]
  cases entries.lookup entry.1 <;> simp [eq_comm]

/-- A value under a plain key. -/
theorem put?_singleton (name : String) (d : Document) (entries : Entries) :
    put? false false entries [name] d = append? (name, .value d) entries := by
  rw [put?, append?]
  rfl

/-- A table that was not named before. -/
theorem giveTable?_of_append? {name : String} {entries entries' : Entries}
    (added : append? (name, .table .given []) entries = some entries') :
    giveTable? name entries = some entries' := by
  obtain ⟨absent, rfl⟩ := append?_eq_some_iff.1 added
  rw [giveTable?]
  simp only [absent]

/-- Entries with distinct names are added one after the other. -/
theorem foldlM_append? {steps entries : Entries}
    (distinct : ((entries ++ steps).map (·.1)).Nodup) :
    steps.foldlM (fun entries entry => append? entry entries) entries =
      some (entries ++ steps) := by
  induction steps generalizing entries with
  | nil => simp
  | cons entry steps ih =>
    have absent : entries.lookup entry.1 = none := by
      rw [List.lookup_eq_none_iff]
      intro e there
      rw [List.map_append, List.nodup_append] at distinct
      have other : e.1 ≠ entry.1 := distinct.2.2 e.1 (List.mem_map.2 ⟨e, there, rfl⟩) entry.1
        (List.mem_map.2 ⟨entry, List.mem_cons_self, rfl⟩)
      simpa using other.symm
    have added : append? entry entries = some (entries ++ [entry]) :=
      append?_eq_some_iff.2 ⟨absent, rfl⟩
    rw [List.append_cons] at distinct
    rw [List.foldlM_cons, added, Option.bind_eq_bind, Option.bind_some, ih distinct,
      List.append_assoc, List.singleton_append]

/-- Entries with distinct names are added to the last table. -/
theorem foldlM_change?_concat {entries inner steps : Entries} {name : String} {origin : Origin}
    (absent : entries.lookup name = none) (distinct : ((inner ++ steps).map (·.1)).Nodup) :
    steps.foldlM (fun entries entry => change? (append? entry) entries [name])
        (entries ++ [(name, .table origin inner)]) =
      some (entries ++ [(name, .table origin (inner ++ steps))]) := by
  have led (inner : Entries) : focus? name (entries ++ [(name, .table origin inner)]) =
      some (inner, fun inner => entries ++ [(name, .table origin inner)]) := by
    simp [focus?, lookup_concat absent, set_concat absent]
  have one (entry : String × Tree) (inner : Entries) :
      change? (append? entry) (entries ++ [(name, .table origin inner)]) [name] =
        (append? entry inner).map fun inner => entries ++ [(name, .table origin inner)] := by
    rw [change?_cons, led]
    rfl
  have within (inner : Entries) :
      steps.foldlM (fun entries entry => change? (append? entry) entries [name])
          (entries ++ [(name, .table origin inner)]) =
        (steps.foldlM (fun inner entry => append? entry inner) inner).map
          fun inner => entries ++ [(name, .table origin inner)] := by
    clear distinct
    induction steps generalizing inner with
    | nil => rfl
    | cons entry steps ih =>
      rw [List.foldlM_cons, List.foldlM_cons, one]
      cases append? entry inner with
      | none => rfl
      | some inner' => exact ih inner'
  rw [within, foldlM_append? distinct, Option.map_some]

/-! ## Documents -/

/-- A table that holds nothing but tables is not given, only named. -/
def originOf (entries : List (String × Document)) : Origin :=
  if entries.all (isTable ·.2) && !entries.isEmpty then .named else .given

/-- The entries with those in front that are no tables. -/
def plainFirst (entries : List (String × Document)) : List (String × Document) :=
  entries.filter (!isTable ·.2) ++ entries.filter (isTable ·.2)

theorem plainFirst_perm (entries : List (String × Document)) :
    (plainFirst entries).Perm entries := by
  have split := List.filter_append_perm (fun e => !isTable e.2) entries
  simpa only [plainFirst, Bool.not_not] using split

/-- What a document is built to. -/
def Tree.ofDocument : Document → Tree
  | .table entries =>
      .table (originOf entries)
        ((plainFirst entries).attach.map fun ⟨e, _⟩ => (e.1, ofDocument e.2))
  | d => .value d
decreasing_by
  rename_i h
  have := List.sizeOf_lt_of_mem ((plainFirst_perm entries).mem_iff.1 h)
  obtain ⟨a, b⟩ := e
  simp_wf
  simp at this
  omega

/-- The trees of the entries of a table. -/
def treesOf (entries : List (String × Document)) : Entries :=
  (plainFirst entries).map fun e => (e.1, .ofDocument e.2)

theorem ofDocument_table (entries : List (String × Document)) :
    Tree.ofDocument (.table entries) = .table (originOf entries) (treesOf entries) := by
  rw [Tree.ofDocument, treesOf, ← List.attach_map_val (l := plainFirst entries)
    (f := fun e : String × Document => (e.1, Tree.ofDocument e.2))]

theorem ofDocument_of_isTable {d : Document} (plain : isTable d = false) :
    Tree.ofDocument d = .value d := by
  cases d with
  | table entries => cases plain
  | _ => rw [Tree.ofDocument]; simp

theorem finish_table (origin : Origin) (entries : Entries) :
    (Tree.table origin entries).finish = Entries.finish entries := by
  rw [Tree.finish, Entries.finish, ← List.attach_map_val (l := entries)
    (f := fun e : String × Tree => (e.1, e.2.finish))]

theorem treesOf_perm (entries : List (String × Document)) :
    (treesOf entries).Perm (entries.map fun e => (e.1, .ofDocument e.2)) :=
  (plainFirst_perm entries).map _

/-- A table that is only named has an entry. -/
theorem exists_treesOf_eq_cons {entries : List (String × Document)}
    (named : originOf entries = .named) : ∃ entry steps, treesOf entries = entry :: steps := by
  refine List.exists_cons_of_ne_nil fun none => ?_
  have perm := treesOf_perm entries
  rw [none, List.nil_perm, List.map_eq_nil_iff] at perm
  subst perm
  cases named

theorem map_fst_treesOf_nodup {entries : List (String × Document)}
    (distinct : (entries.map (·.1)).Nodup) : ((treesOf entries).map (·.1)).Nodup := by
  have names := (plainFirst_perm entries).map (·.1)
  rw [treesOf, List.map_map]
  exact names.nodup_iff.2 distinct

theorem finish_ofDocument_of_isTable {d : Document} (plain : isTable d = false) :
    (Tree.ofDocument d).finish = d := by
  rw [ofDocument_of_isTable plain, Tree.finish]

/-- The document of what was built has the entries of the document, if the tables in it are built
to themselves. -/
theorem reorders_finish_ofDocument {entries : List (String × Document)}
    (same : ∀ e ∈ entries, (Tree.ofDocument e.2).finish = e.2) :
    Document.Reorders (Tree.ofDocument (.table entries)).finish (.table entries) := by
  have unchanged : (treesOf entries).map (fun e => (e.1, e.2.finish)) = plainFirst entries := by
    rw [treesOf, List.map_map]
    refine (List.map_congr_left fun e there => ?_).trans (List.map_id _)
    exact Prod.ext rfl (same e ((plainFirst_perm entries).mem_iff.1 there))
  rw [ofDocument_table, finish_table, Entries.finish, unchanged]
  exact .table (plainFirst_perm entries)

/-- A table without tables in it is built to itself. -/
theorem finish_ofDocument_of_values {entries : List (String × Document)}
    (values : ∀ e ∈ entries, isTable e.2 = false) :
    (Tree.ofDocument (.table entries)).finish = .table entries := by
  have order : plainFirst entries = entries := by
    rw [plainFirst, List.filter_eq_self.2 fun e there => by simp [values e there],
      List.filter_eq_nil_iff.2 fun e there => by simp [values e there], List.append_nil]
  have unchanged : (treesOf entries).map (fun e => (e.1, e.2.finish)) = entries := by
    rw [treesOf, order, List.map_map]
    refine (List.map_congr_left fun e there => ?_).trans (List.map_id _)
    exact Prod.ext rfl (finish_ofDocument_of_isTable (values e there))
  rw [ofDocument_table, finish_table, Entries.finish, unchanged]

/-! ## Building -/

/-- Steps that are taken in a table are steps that are taken at its path, once the first of them
has led there. -/
theorem foldlM_of_change? {α : Type} {f : Entries → Option Entries}
    {g : α → Entries → Option Entries} {steps : List α} {root opened root' : Entries}
    {path : List String} (first : change? f root path = some opened)
    (all : change? (fun inner => (f inner).bind fun inner =>
      steps.foldlM (fun inner s => g s inner) inner) root path = some root') :
    steps.foldlM (fun root s => change? (g s) root path) opened = some root' := by
  induction steps generalizing f opened with
  | nil =>
    have same : (fun inner => (f inner).bind fun inner =>
        [].foldlM (fun inner (s : α) => g s inner) inner) = f := by
      funext inner
      exact Option.bind_fun_some _
    rw [same, first] at all
    exact all
  | cons s steps ih =>
    -- the next step joins those that have led here, and the others remain
    have assoc : (fun inner => (f inner).bind fun inner =>
        (s :: steps).foldlM (fun inner s => g s inner) inner) =
        fun inner => ((f inner).bind (g s)).bind fun inner =>
          steps.foldlM (fun inner s => g s inner) inner := by
      funext inner
      rw [Option.bind_assoc]
      rfl
    rw [assoc] at all
    have second : change? (fun inner => (f inner).bind (g s)) root path =
        change? (g s) opened path := by
      rw [← change?_bind, first, Option.bind_some]
    obtain ⟨opened', led, -⟩ := Option.bind_eq_some_iff.1 ((change?_bind _ _ _ _).trans all)
    rw [List.foldlM_cons, ← second, led]
    exact ih led all

/-- What amounts to a first step and further ones in every table does so at a path. -/
theorem exists_first {α : Type} (f : Entries → Option Entries)
    (g : α → Entries → Option Entries) (steps : List α) {h : Entries → Option Entries}
    (amounts : ∀ inner inner', h inner = some inner' →
      ((f inner).bind fun inner => steps.foldlM (fun inner s => g s inner) inner) = some inner')
    {root root' : Entries} {path : List String} (built : change? h root path = some root') :
    ∃ opened, change? f root path = some opened ∧
      steps.foldlM (fun root s => change? (g s) root path) opened = some root' := by
  have all := change?_mono amounts built
  obtain ⟨opened, led, -⟩ := Option.bind_eq_some_iff.1 ((change?_bind _ _ _ _).trans all)
  exact ⟨opened, led, foldlM_of_change? led all⟩

section Build

variable {entries : List (String × Document)} (distinct : (entries.map (·.1)).Nodup)
  {root root' : Entries} {path : List String} {name : String}
  (built : change? (append? (name, .ofDocument (.table entries))) root path = some root')
include distinct built

/-- A table that is given is built by opening it and by adding its entries. -/
theorem exists_opened (given : originOf entries = .given) :
    ∃ opened, change? (append? (name, .table .given [])) root path = some opened ∧
      (treesOf entries).foldlM (fun root entry => change? (append? entry) root (path ++ [name]))
        opened = some root' := by
  have names := map_fst_treesOf_nodup distinct
  rw [ofDocument_table, given] at built
  simp only [change?_append]
  refine exists_first _ _ _ (fun inner inner' appended => ?_) built
  obtain ⟨absent, rfl⟩ := append?_eq_some_iff.1 appended
  have opened : append? (name, .table .given []) inner =
      some (inner ++ [(name, .table .given [])]) := append?_eq_some_iff.2 ⟨absent, rfl⟩
  rw [opened]
  exact foldlM_change?_concat absent names

/-- A table that is only named is built by adding its entries, the first of which names it. -/
theorem foldlM_named (named : originOf entries = .named) :
    (treesOf entries).foldlM (fun root entry => change? (append? entry) root (path ++ [name]))
      root = some root' := by
  have names := map_fst_treesOf_nodup distinct
  rw [ofDocument_table, named] at built
  simp only [change?_append]
  obtain ⟨entry, steps, parts⟩ := exists_treesOf_eq_cons named
  rw [parts] at names built ⊢
  have amounts : ∀ inner inner',
      append? (name, .table .named (entry :: steps)) inner = some inner' →
      ((change? (append? entry) inner [name]).bind fun inner =>
        steps.foldlM (fun inner entry => change? (append? entry) inner [name]) inner) =
          some inner' := by
    intro inner inner' appended
    obtain ⟨absent, rfl⟩ := append?_eq_some_iff.1 appended
    have opened : change? (append? entry) inner [name] =
        some (inner ++ [(name, .table .named [entry])]) := by
      rw [change?_cons, focus?]
      simp only [absent]
      rfl
    rw [opened]
    exact foldlM_change?_concat absent names
  obtain ⟨opened, led, rest⟩ := exists_first _ _ steps amounts built
  rw [List.foldlM_cons, led]
  exact rest

end Build

end Reachability.Toml
